import Mathlib.Data.List.Basic

/-!
Regular expressions without alternatives, whose pieces all have one length.

Such an expression never backtracks, so a match takes its pieces off a text one after the other.
-/

namespace Foundation

/-- One piece of an expression. -/
inductive Piece where
  | literal (text : List Char)
  | repeated (count : Nat) (accepts : Char → Bool)
  /-- `\Z`. -/
  | textEnd

/-- What a piece leaves of a text. -/
def Piece.take : Piece → List Char → Option (List Char)
  | literal text, input =>
    if input.take text.length = text then some (input.drop text.length) else none
  | repeated count accepts, input =>
    if (input.take count).length = count ∧ (input.take count).all accepts then
      some (input.drop count)
    else none
  | textEnd, input => if input = [] then some [] else none

/-- `fullmatch`: the pieces take the whole text. -/
def fullmatch : List Piece → List Char → Bool
  | [], input => input.isEmpty
  | piece :: rest, input =>
    match piece.take input with
    | none => false
    | some left => fullmatch rest left

/-- A text is at most as long as its beginning only where it starts with it. -/
theorem take_eq_iff {front input left : List Char} :
    input.take front.length = front ∧ input.drop front.length = left ↔ input = front ++ left := by
  -- The input is the part taken followed by the part left.
  constructor
  · rintro ⟨taken, dropped⟩
    rw [← List.take_append_drop front.length input, taken, dropped]
  · rintro rfl
    exact ⟨List.take_left, List.drop_left⟩

/-- A literal takes itself. -/
theorem take_literal {text input left : List Char} :
    (Piece.literal text).take input = some left ↔ input = text ++ left := by
  -- The literal is taken exactly when it is the front of the input.
  rw [Piece.take, ← take_eq_iff]
  split
  next same => simp [same]
  next other => simp [other]

/-- A repetition takes as many characters as it counts. -/
theorem take_repeated {count : Nat} {accepts : Char → Bool} {input left : List Char} :
    (Piece.repeated count accepts).take input = some left ↔
      ∃ front, input = front ++ left ∧ front.length = count ∧ ∀ char ∈ front, accepts char := by
  -- What is taken is the front of that length, and it is taken if all of it is accepted.
  rw [Piece.take]
  constructor
  · intro taken
    split at taken
    next enough =>
      cases taken
      exact ⟨input.take count, (List.take_append_drop ..).symm, enough.1,
        List.all_eq_true.mp enough.2⟩
    next => cases taken
  · rintro ⟨front, rfl, rfl, accepted⟩
    rw [List.take_left, List.drop_left, if_pos ⟨rfl, List.all_eq_true.mpr accepted⟩]

/-- The end of a text takes nothing. -/
theorem take_textEnd {input left : List Char} :
    Piece.textEnd.take input = some left ↔ input = [] ∧ left = [] := by
  -- The end of the text is met by the empty input only.
  rw [Piece.take]
  split
  next empty => simp [empty, eq_comm]
  next filled => simp [filled]

/-- No piece matches an empty text only. -/
theorem fullmatch_nil {input : List Char} : fullmatch [] input = true ↔ input = [] :=
  List.isEmpty_iff

/-- A match goes on behind its first piece. -/
theorem fullmatch_cons {piece : Piece} {rest : List Piece} {input : List Char} :
    fullmatch (piece :: rest) input = true ↔
      ∃ left, piece.take input = some left ∧ fullmatch rest left = true := by
  -- By what the first piece takes.
  rw [fullmatch]
  cases piece.take input with
  | none => simp
  | some left => simp

end Foundation
