import Mathlib.Algebra.GroupWithZero.Nat
import Mathlib.Data.List.Basic
import Mathlib.Logic.Relation

/-!
A queue of bounded length that drops its oldest entry for a new one.

Whoever takes from it misses only entries that as many newer ones as fit into it have replaced.
-/

namespace Foundation

/-- Entries that wait to be taken, the oldest first. -/
structure Mailbox (α : Type) (capacity : Nat) where
  entries : List α
  bounded : entries.length ≤ capacity

namespace Mailbox
variable {α : Type} {capacity : Nat}

/-- Nothing waits. -/
def empty : Mailbox α capacity := ⟨[], Nat.zero_le capacity⟩

/-- A new entry comes, and the oldest one goes when there is no room. -/
def put [NeZero capacity] (box : Mailbox α capacity) (entry : α) : Mailbox α capacity where
  entries := (if capacity ≤ box.entries.length then box.entries.tail else box.entries) ++ [entry]
  bounded := by
    have positive : 0 < capacity := Nat.pos_of_ne_zero (NeZero.ne capacity)
    have bounded := box.bounded
    split <;> simp only [List.length_append, List.length_tail, List.length_singleton] <;> omega

/-- The oldest entry is taken. -/
def get (box : Mailbox α capacity) : Option (α × Mailbox α capacity) :=
  box.entries.head?.map fun entry => (entry, ⟨box.entries.tail, by
    have bounded := box.bounded
    rw [List.length_tail]
    omega⟩)

/-- What is taken stood before the rest. -/
theorem get_eq_some {box rest : Mailbox α capacity} {entry : α}
    (taken : box.get = some (entry, rest)) : box.entries = entry :: rest.entries := by
  -- What is taken is the head of the entries.
  obtain ⟨first, found, same⟩ := Option.map_eq_some_iff.mp taken
  cases same
  exact List.eq_cons_of_mem_head? found

end Mailbox

/-- A mailbox with everything that has come into it and everything that was taken from it. -/
structure Post (α : Type) (capacity : Nat) where
  came : List α := []
  taken : List α := []
  box : Mailbox α capacity := .empty

namespace Post
variable {α : Type} {capacity : Nat}

/-- What has not been dropped, in the order in which it came. -/
def kept (post : Post α capacity) : List α := post.taken ++ post.box.entries

/-- An entry comes in. -/
def put [NeZero capacity] (post : Post α capacity) (entry : α) : Post α capacity :=
  { post with came := post.came ++ [entry], box := post.box.put entry }

/-- An entry is taken out, and the rest remains. -/
def get (post : Post α capacity) (entry : α) (rest : Mailbox α capacity) : Post α capacity :=
  { post with taken := post.taken ++ [entry], box := rest }

/-- What a mailbox guarantees. -/
structure Faithful (post : Post α capacity) : Prop where
  /-- Nothing is invented, repeated or put out of order. -/
  ordered : post.kept.Sublist post.came
  /-- As many of the newest entries as fit in are kept. -/
  newest : post.came.drop (post.came.length - capacity) <:+ post.kept
  /-- What waits is what came last. -/
  waiting : post.box.entries <:+ post.came

/-- A mailbox that has just been opened is faithful. -/
theorem Faithful.start : Faithful ({} : Post α capacity) := by
  -- Nothing has come, so there is nothing to keep.
  refine ⟨.refl _, ?_, List.suffix_rfl⟩
  rw [show ({} : Post α capacity).came = [] from rfl, List.drop_nil]
  exact List.nil_suffix

/-- What is taken was kept before. -/
theorem kept_get {post : Post α capacity} {entry : α} {rest : Mailbox α capacity}
    (taken : post.box.get = some (entry, rest)) : (post.get entry rest).kept = post.kept := by
  -- The entry moves from the front of the box to the end of what was taken.
  rw [kept, kept, get, Mailbox.get_eq_some taken, List.append_assoc]
  rfl

/-- Taking the oldest entry keeps a mailbox faithful. -/
theorem Faithful.get {post : Post α capacity} (faithful : post.Faithful) {entry : α}
    {rest : Mailbox α capacity} (taken : post.box.get = some (entry, rest)) :
    (post.get entry rest).Faithful := by
  -- Taking moves an entry from the queue to what was taken, and what is kept stays the same.
  refine ⟨?_, ?_, ?_⟩
  · rw [kept_get taken]
    exact faithful.ordered
  · rw [kept_get taken]
    exact faithful.newest
  · have waiting := faithful.waiting
    rw [Mailbox.get_eq_some taken] at waiting
    exact (List.suffix_cons entry rest.entries).trans waiting

/-- Dropping the oldest entry for a new one keeps a mailbox faithful. -/
theorem Faithful.put [NeZero capacity] {post : Post α capacity} (faithful : post.Faithful)
    (entry : α) : (post.put entry).Faithful := by
  have positive : 0 < capacity := Nat.pos_of_ne_zero (NeZero.ne capacity)
  obtain ⟨ordered, newest, waiting⟩ := faithful
  have recent : (post.put entry).came.drop ((post.put entry).came.length - capacity) =
      post.came.drop (post.came.length + 1 - capacity) ++ [entry] := by
    rw [Post.put, List.length_append, List.length_singleton,
      List.drop_append_of_le_length (by omega)]
  have grown : ∀ {back front : List α}, back <:+ front → back ++ [entry] <:+ front ++ [entry] := by
    rintro back _ ⟨before, rfl⟩
    exact ⟨before, (List.append_assoc before back [entry]).symm⟩
  -- The oldest entry goes only where there is no room.
  by_cases full : capacity ≤ post.box.entries.length
  · have after : (post.put entry).kept = post.taken ++ post.box.entries.tail ++ [entry] := by
      rw [Post.put, kept, Mailbox.put]
      simp only [if_pos full, List.append_assoc]
    have left : (post.taken ++ post.box.entries.tail).Sublist post.kept :=
      (List.tail_sublist _).append_left post.taken
    refine ⟨?_, ?_, ?_⟩
    · rw [after]
      exact (left.trans ordered).append_right [entry]
    · -- A full queue holds exactly as many of the newest entries as fit.
      obtain ⟨before, split⟩ := waiting
      have exact : post.box.entries.length = capacity := Nat.le_antisymm post.box.bounded full
      have tail : post.came.drop (post.came.length + 1 - capacity) = post.box.entries.tail := by
        rw [← split, List.length_append, exact, show before.length + capacity + 1 - capacity =
          before.length + 1 by omega, ← List.drop_drop, List.drop_left, List.drop_one]
      rw [after, recent, tail, List.append_assoc]
      exact List.suffix_append _ _
    · rw [Post.put, Mailbox.put]
      simp only [if_pos full]
      exact grown ((List.tail_suffix _).trans waiting)
  · have after : (post.put entry).kept = post.kept ++ [entry] := by
      rw [Post.put, kept, kept, Mailbox.put]
      simp only [if_neg full, List.append_assoc]
    refine ⟨?_, ?_, ?_⟩
    · rw [after]
      exact ordered.append_right [entry]
    · rw [after, recent]
      exact grown ((List.drop_suffix_drop_left _ (by omega)).trans newest)
    · rw [Post.put, Mailbox.put]
      simp only [if_neg full]
      exact grown waiting

end Post

end Foundation
