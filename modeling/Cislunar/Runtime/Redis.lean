import Mathlib.Data.List.Induction

/-! The Redis list commands that the telemetry queue is built from; the head of a list is its left end. -/

namespace Cislunar.Redis
variable {α : Type}

/-- `LPUSH key value`. -/
def lpush (value : α) (list : List α) : List α := value :: list

/-- `LREM key 1 value`: how many entries were removed, and what is left. -/
def lrem [DecidableEq α] (value : α) (list : List α) : Nat × List α :=
  if value ∈ list then (1, list.erase value) else (0, list)

/-- `RPOPLPUSH source destination`: the moved entry and both lists, absent for an empty source. -/
def rpoplpush (source destination : List α) : Option (α × List α × List α) :=
  source.getLast?.map fun value => (value, source.dropLast, lpush value destination)

/-- A non-empty source gives up its right end. -/
@[simp] theorem rpoplpush_append (source destination : List α) (value : α) :
    rpoplpush (source ++ [value]) destination = some (value, source, value :: destination) := by
  simp [rpoplpush, lpush]

/-- Only an empty source has nothing to give up. -/
@[simp] theorem rpoplpush_nil (destination : List α) : rpoplpush [] destination = none := rfl

/-- `while true`: move entries until the source is empty, counting them; the fuel bounds the moves. -/
def moveAll : Nat → Nat → List α → List α → Nat × List α × List α
  | 0, moved, source, destination => (moved, source, destination)
  | fuel + 1, moved, source, destination =>
    match rpoplpush source destination with
    | none => (moved, source, destination)
    | some (_, source, destination) => moveAll fuel (moved + 1) source destination

/-- Enough fuel moves the whole source in front of the destination. -/
theorem moveAll_eq (source destination : List α) (moved : Nat) {fuel : Nat}
    (enough : source.length ≤ fuel) :
    moveAll fuel moved source destination = (moved + source.length, [], source ++ destination) := by
  -- Each move takes the right end of the source to the left end of the destination.
  induction source using List.reverseRecOn generalizing fuel moved destination with
  | nil => cases fuel <;> simp [moveAll]
  | append_singleton source value ih =>
    cases fuel with
    | zero => simp at enough
    | succ fuel =>
      rw [List.length_append, List.length_singleton, Nat.add_le_add_iff_right] at enough
      rw [moveAll, rpoplpush_append]
      dsimp only
      rw [ih _ _ enough]
      simp only [List.length_append, List.length_singleton, List.append_assoc, List.cons_append,
        List.nil_append]
      rw [Nat.add_right_comm, Nat.add_assoc moved]

end Cislunar.Redis
