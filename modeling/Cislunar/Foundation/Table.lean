import Mathlib.Data.List.Nodup

/-! Finite tables with a primary key: an insertion or an update keeps every key unique. -/

namespace Foundation

/-- Rows in insertion order, no two of them under one key. -/
structure Table {κ ρ : Type} (key : ρ → κ) where
  rows : List ρ
  nodup : (rows.map key).Nodup

namespace Table

variable {κ ρ : Type} {key : ρ → κ}

/-- The table without rows. -/
def empty : Table key := ⟨[], List.nodup_nil⟩

instance : Inhabited (Table key) := ⟨empty⟩

instance : Membership ρ (Table key) := ⟨fun table row => row ∈ table.rows⟩

instance [DecidableEq ρ] (table : Table key) (row : ρ) : Decidable (row ∈ table) :=
  inferInstanceAs (Decidable (row ∈ table.rows))

/-- A row belongs to a table exactly when it is among its rows. -/
theorem mem_rows {table : Table key} {row : ρ} : row ∈ table.rows ↔ row ∈ table := Iff.rfl

/-- The empty table has no rows. -/
@[simp] theorem not_mem_empty (row : ρ) : row ∉ (empty : Table key) := List.not_mem_nil

/-- Rows under one key are one row. -/
theorem eq_of_key {table : Table key} {first second : ρ} (left : first ∈ table)
    (right : second ∈ table) (same : key first = key second) : first = second :=
  List.inj_on_of_nodup_map table.nodup left right same

/-- Tables with the same rows are one table. -/
theorem ext {first second : Table key} (rows : first.rows = second.rows) : first = second := by
  -- The rest of a table is a proof about its rows.
  cases first
  cases second
  congr

/-- The first row that satisfies a condition, in insertion order. -/
def find? (table : Table key) (condition : ρ → Bool) : Option ρ :=
  table.rows.find? condition

/-- A row that is found belongs to the table and satisfies the condition. -/
theorem of_find?_eq_some {table : Table key} {condition : ρ → Bool} {row : ρ}
    (found : table.find? condition = some row) : row ∈ table ∧ condition row = true :=
  ⟨List.mem_of_find?_eq_some found, List.find?_some found⟩

/-- Nothing is found exactly when no row satisfies the condition. -/
theorem find?_eq_none {table : Table key} {condition : ρ → Bool} :
    table.find? condition = none ↔ ∀ row ∈ table, condition row = false := by
  simp [find?, List.find?_eq_none, mem_rows]

/-- A row that satisfies the condition makes the search succeed. -/
theorem find?_isSome {table : Table key} {condition : ρ → Bool} {row : ρ} (member : row ∈ table)
    (met : condition row = true) : ∃ found, table.find? condition = some found := by
  -- A search that finds nothing would contradict the row at hand.
  cases found : table.find? condition with
  | some first => exact ⟨first, rfl⟩
  | none =>
    have := find?_eq_none.mp found row member
    simp [met] at this

/-- When only one row satisfies the condition, it is the one that is found. -/
theorem find?_eq_some_of_unique {table : Table key} {condition : ρ → Bool} {row : ρ}
    (member : row ∈ table) (met : condition row = true)
    (unique : ∀ other ∈ table, condition other = true → other = row) :
    table.find? condition = some row := by
  -- Some row is found, and only one can be.
  obtain ⟨found, search⟩ := find?_isSome member met
  obtain ⟨among, also⟩ := of_find?_eq_some search
  rw [search, unique found among also]

section
variable [DecidableEq κ]

/-- The row under a key. -/
def get? (table : Table key) (wanted : κ) : Option ρ :=
  table.find? fun row => key row = wanted

/-- A key leads to exactly the row that carries it. -/
theorem get?_eq_some {table : Table key} {wanted : κ} {row : ρ} :
    table.get? wanted = some row ↔ row ∈ table ∧ key row = wanted := by
  -- No two rows have one key, so the search cannot find another row.
  constructor
  · intro found
    obtain ⟨member, named⟩ := of_find?_eq_some found
    exact ⟨member, by simpa using named⟩
  · rintro ⟨member, named⟩
    refine find?_eq_some_of_unique member (by simpa using named) ?_
    intro other among also
    exact eq_of_key among member (by rw [named]; simpa using also)

/-- A key is unused exactly when no row carries it. -/
theorem get?_eq_none {table : Table key} {wanted : κ} :
    table.get? wanted = none ↔ ∀ row ∈ table, key row ≠ wanted := by
  simp [get?, find?_eq_none]

/-- A row that is found in a table is found in every table that keeps the rows. -/
theorem get?_of_kept {table later : Table key} (kept : ∀ row ∈ table, row ∈ later) {wanted : κ}
    {row : ρ} (found : table.get? wanted = some row) : later.get? wanted = some row := by
  -- Keys are unique, so the row that is kept is the one that is found.
  obtain ⟨member, named⟩ := get?_eq_some.mp found
  exact get?_eq_some.mpr ⟨kept row member, named⟩

/-- A row is found under its own key. -/
theorem get?_key {table : Table key} {row : ρ} (member : row ∈ table) :
    table.get? (key row) = some row :=
  get?_eq_some.mpr ⟨member, rfl⟩

/-- The empty table answers nothing. -/
@[simp] theorem get?_empty (wanted : κ) : (empty : Table key).get? wanted = none := rfl

/-- Add a row at the end; a row under a used key is not added. -/
def insert (table : Table key) (row : ρ) : Table key :=
  if unused : table.get? (key row) = none then
    { rows := table.rows ++ [row]
      nodup := by
        rw [List.map_append, List.nodup_append]
        refine ⟨table.nodup, by simp, ?_⟩
        intro used among other single
        obtain ⟨old, member, rfl⟩ := List.mem_map.mp among
        have : other = key row := by simpa using single
        rw [this]
        exact get?_eq_none.mp unused old member }
  else table

/-- A fresh row is appended. -/
theorem rows_insert {table : Table key} {row : ρ} (unused : table.get? (key row) = none) :
    (table.insert row).rows = table.rows ++ [row] := by
  -- The key is unused, so the row is appended.
  simp [insert, unused]

/-- A fresh row joins the rows already there. -/
theorem mem_insert {table : Table key} {row other : ρ} (unused : table.get? (key row) = none) :
    other ∈ table.insert row ↔ other ∈ table ∨ other = row := by
  rw [← mem_rows, rows_insert unused]
  simp [mem_rows]

/-- A search for something else than a fresh row finds what it found before. -/
theorem find?_insert {table : Table key} {row : ρ} (unused : table.get? (key row) = none)
    {condition : ρ → Bool} (missed : condition row = false) :
    (table.insert row).find? condition = table.find? condition := by
  -- The new row is last, and the condition misses it.
  rw [find?, rows_insert unused, List.find?_append, List.find?_cons, missed, List.find?_nil,
    Option.or_none]
  rfl

/-- What holds of a new row and of all others holds after an insertion. -/
theorem forall_mem_insert {table : Table key} {row : ρ} {good : ρ → Prop}
    (unused : table.get? (key row) = none) (new : good row) (old : ∀ other ∈ table, good other) :
    ∀ other ∈ table.insert row, good other := by
  -- The members are the old rows and the new one.
  intro other member
  rcases (mem_insert unused).mp member with kept | rfl
  · exact old other kept
  · exact new

/-- A fresh row is found under its key, and every other key answers as before. -/
theorem get?_insert {table : Table key} {row : ρ} (unused : table.get? (key row) = none)
    (wanted : κ) :
    (table.insert row).get? wanted = if key row = wanted then some row else table.get? wanted := by
  -- The search goes through the old rows first, where the key of the new one is not.
  rw [get?, find?, rows_insert unused, List.find?_append]
  by_cases same : key row = wanted
  · subst same
    have missing : table.rows.find? (fun other => key other = key row) = none := unused
    simp [missing]
  · simp [same, get?, find?]

/-- A column without repetitions stays so when a row with a fresh value joins. -/
theorem unique_insert {α : Type} {column : ρ → α} {table : Table key} {row : ρ}
    (unused : table.get? (key row) = none) (fresh : ∀ other ∈ table, column other ≠ column row)
    (unique : ∀ first ∈ table, ∀ second ∈ table, column first = column second → first = second) :
    ∀ first ∈ table.insert row, ∀ second ∈ table.insert row,
      column first = column second → first = second := by
  -- Two rows with one value are old ones or both the new one, whose value is fresh.
  intro first left second right equal
  rcases (mem_insert unused).mp left with oldFirst | rfl <;>
    rcases (mem_insert unused).mp right with oldSecond | rfl
  · exact unique first oldFirst second oldSecond equal
  · exact absurd equal (fresh first oldFirst)
  · exact absurd equal.symm (fresh second oldSecond)
  · rfl

/-- Replace the row that has the key of the new one. -/
def set (table : Table key) (row : ρ) : Table key where
  rows := table.rows.map fun old => if key old = key row then row else old
  nodup := by
    have keys : (table.rows.map fun old => if key old = key row then row else old).map key =
        table.rows.map key := by
      rw [List.map_map]
      refine List.map_congr_left fun old _ => ?_
      by_cases same : key old = key row <;> simp [same]
    rw [keys]
    exact table.nodup

/-- A replacement changes no key. -/
theorem keys_set (table : Table key) (row : ρ) :
    (table.set row).rows.map key = table.rows.map key := by
  -- A row is replaced only by one under its own key.
  show (table.rows.map _).map key = _
  rw [List.map_map]
  refine List.map_congr_left fun old _ => ?_
  by_cases same : key old = key row <;> simp [same]

/-- After a replacement the rows are the new one and those under other keys. -/
theorem mem_set {table : Table key} {row other : ρ} :
    other ∈ table.set row ↔
      (other = row ∧ ∃ old ∈ table, key old = key row) ∨ (other ∈ table ∧ key other ≠ key row) := by
  -- A row is replaced where it has the key, and kept elsewhere.
  rw [← mem_rows, set, List.mem_map]
  constructor
  · rintro ⟨old, member, rfl⟩
    by_cases same : key old = key row
    · exact Or.inl ⟨by simp [same], old, member, same⟩
    · rw [if_neg same]
      exact Or.inr ⟨member, same⟩
  · rintro (⟨rfl, old, member, same⟩ | ⟨member, different⟩)
    · exact ⟨old, member, by simp [same]⟩
    · exact ⟨other, member, by simp [different]⟩

/-- Under an unused key there is nothing to replace. -/
theorem set_of_unused {table : Table key} {row : ρ} (unused : table.get? (key row) = none) :
    table.set row = table := by
  -- No row has the key, so each is left as it is.
  refine ext ?_
  show table.rows.map _ = _
  conv_rhs => rw [← List.map_id table.rows]
  exact List.map_congr_left fun old member => if_neg (get?_eq_none.mp unused old member)

/-- Replacing a row by itself changes nothing. -/
theorem set_of_mem {table : Table key} {row : ρ} (member : row ∈ table) : table.set row = table := by
  -- The only row under the key is the one that is written.
  refine ext ?_
  show table.rows.map _ = _
  conv_rhs => rw [← List.map_id table.rows]
  refine List.map_congr_left fun old among => ?_
  split_ifs with same
  · exact (eq_of_key among member same).symm
  · rfl

/-- Of two replacements of a row the second one counts. -/
theorem set_set {table : Table key} {first second : ρ} (same : key first = key second) :
    (table.set first).set second = table.set second := by
  -- Row by row: the second write meets the first one under the same key.
  refine ext ?_
  show (table.rows.map _).map _ = table.rows.map _
  rw [List.map_map]
  refine List.map_congr_left fun old _ => ?_
  by_cases under : key old = key second <;> simp [same, under]

/-- What holds of a new row and of all others holds after a replacement. -/
theorem forall_mem_set {table : Table key} {row : ρ} {good : ρ → Prop} (new : good row)
    (old : ∀ other ∈ table, good other) : ∀ other ∈ table.set row, good other := by
  -- A member is the row that was written, or one that was kept.
  intro other member
  rcases mem_set.mp member with ⟨rfl, -⟩ | ⟨kept, -⟩
  · exact new
  · exact old other kept

/-- Replacing a present row keeps the others and brings in the new one. -/
theorem mem_set_of_mem {table : Table key} {row other old : ρ} (member : old ∈ table)
    (same : key old = key row) :
    other ∈ table.set row ↔ other = row ∨ (other ∈ table ∧ key other ≠ key row) := by
  -- The key is in use, so the new row takes the place of the old one.
  rw [mem_set]
  constructor
  · rintro (⟨new, _⟩ | kept)
    · exact Or.inl new
    · exact Or.inr kept
  · rintro (new | kept)
    · exact Or.inl ⟨new, old, member, same⟩
    · exact Or.inr kept

/-- A column without repetitions stays so when a row is replaced by one with the same value. -/
theorem unique_set {α : Type} {column : ρ → α} {table : Table key} {row old : ρ}
    (member : old ∈ table) (same : key old = key row) (kept : column old = column row)
    (unique : ∀ first ∈ table, ∀ second ∈ table, column first = column second → first = second) :
    ∀ first ∈ table.set row, ∀ second ∈ table.set row,
      column first = column second → first = second := by
  intro first left second right equal
  rcases (mem_set_of_mem member same).mp left with rfl | ⟨oldFirst, otherFirst⟩ <;>
    rcases (mem_set_of_mem member same).mp right with rfl | ⟨oldSecond, otherSecond⟩
  · rfl
  · -- The other row would be the replaced one, which has left the table.
    rw [← unique old member second oldSecond (kept.trans equal)] at otherSecond
    exact absurd same otherSecond
  · rw [unique first oldFirst old member (equal.trans kept.symm)] at otherFirst
    exact absurd same otherFirst
  · exact unique first oldFirst second oldSecond equal

/-- A replacement answers under its own key when the key is in use, and changes no other answer. -/
theorem get?_set {table : Table key} {row : ρ} (wanted : κ) :
    (table.set row).get? wanted =
      if key row = wanted then (table.get? wanted).map fun _ => row else table.get? wanted := by
  -- Under the key of the row the answer is the row if any was there; elsewhere nothing has changed.
  by_cases same : key row = wanted
  · subst same
    rw [if_pos rfl]
    cases found : table.get? (key row) with
    | none =>
      rw [Option.map_none, get?_eq_none]
      intro other member
      rcases mem_set.mp member with ⟨_, old, among, key⟩ | ⟨_, different⟩
      · exact absurd key (get?_eq_none.mp found old among)
      · exact different
    | some old =>
      obtain ⟨member, named⟩ := get?_eq_some.mp found
      exact get?_eq_some.mpr ⟨(mem_set_of_mem member named).mpr (Or.inl rfl), rfl⟩
  · rw [if_neg same]
    cases found : table.get? wanted with
    | none =>
      rw [get?_eq_none]
      intro other member
      rcases mem_set.mp member with ⟨rfl, _⟩ | ⟨among, _⟩
      · exact same
      · exact get?_eq_none.mp found other among
    | some old =>
      obtain ⟨member, rfl⟩ := get?_eq_some.mp found
      exact get?_eq_some.mpr ⟨mem_set.mpr (Or.inr ⟨member, fun equal => same equal.symm⟩), rfl⟩

/-- A replaced row is found in its place, and every other key answers as before. -/
theorem get?_set_of_used {table : Table key} {row old : ρ} {used : κ}
    (found : table.get? used = some old) (same : key row = used) (wanted : κ) :
    (table.set row).get? wanted = if used = wanted then some row else table.get? wanted := by
  -- The key was found, so under it the new row answers.
  subst same
  rw [get?_set]
  by_cases same : key row = wanted
  · rw [if_pos same, if_pos same, ← same, found]
    rfl
  · rw [if_neg same, if_neg same]

/-- Every key of a table is in use in another. -/
def Within (first second : Table key) : Prop :=
  ∀ wanted, second.get? wanted = none → first.get? wanted = none

namespace Within
variable {first second third : Table key}

/-- The rows of a table may have changed in the other, as long as their keys are there. -/
theorem of_rows (kept : ∀ row ∈ first, ∃ later ∈ second, key later = key row) :
    first.Within second := by
  -- Under a key that the second table leaves free the first one has no row.
  intro wanted unused
  rw [get?_eq_none] at unused ⊢
  rintro row member rfl
  obtain ⟨later, among, same⟩ := kept row member
  exact unused later among same

/-- Keys may be collected step by step. -/
theorem trans (early : first.Within second) (late : second.Within third) : first.Within third :=
  fun wanted unused => early wanted (late wanted unused)

/-- A replacement uses no new key. -/
theorem set (row : ρ) : (first.set row).Within first := by
  -- A key without a row is not given one.
  intro wanted unused
  rw [get?_set, unused]
  split <;> rfl

/-- Two fresh rows under one key use it in both tables. -/
theorem insert (within : first.Within second) {row other : ρ} (same : key row = key other)
    (fresh : first.get? (key row) = none) (unused : second.get? (key other) = none) :
    (first.insert row).Within (second.insert other) := by
  -- Under the key of the new row the first table is no longer free.
  intro wanted missing
  rw [get?_insert unused] at missing
  rw [get?_insert fresh, same]
  split at missing
  next => cases missing
  next different =>
    rw [if_neg different]
    exact within wanted missing

end Within

end

/-- Change every row that satisfies a condition, keys excepted. -/
def modify (table : Table key) (condition : ρ → Bool) (change : ρ → ρ)
    (keeps : ∀ row, key (change row) = key row) : Table key where
  rows := table.rows.map fun row => if condition row then change row else row
  nodup := by
    have keys : (table.rows.map fun row => if condition row then change row else row).map key =
        table.rows.map key := by
      rw [List.map_map]
      refine List.map_congr_left fun row _ => ?_
      by_cases met : condition row <;> simp [met, keeps]
    rw [keys]
    exact table.nodup

/-- A change of rows changes no key. -/
theorem keys_modify (table : Table key) (condition : ρ → Bool) (change : ρ → ρ)
    (keeps : ∀ row, key (change row) = key row) :
    (table.modify condition change keeps).rows.map key = table.rows.map key := by
  -- A changed row keeps its key, whatever the condition says.
  show (table.rows.map _).map key = _
  rw [List.map_map]
  refine List.map_congr_left fun row _ => ?_
  by_cases met : condition row <;> simp [met, keeps]

/-- The rows after a change are the old rows, changed where the condition holds. -/
theorem mem_modify {table : Table key} {condition : ρ → Bool} {change : ρ → ρ}
    {keeps : ∀ row, key (change row) = key row} {row : ρ} :
    row ∈ table.modify condition change keeps ↔
      ∃ old ∈ table, row = if condition old then change old else old := by
  -- A change maps the rows one by one.
  rw [← mem_rows, modify, List.mem_map]
  constructor
  · rintro ⟨old, member, rfl⟩
    exact ⟨old, member, rfl⟩
  · rintro ⟨old, member, rfl⟩
    exact ⟨old, member, rfl⟩

/-- A key answers with its row, changed where the condition holds. -/
theorem get?_modify [DecidableEq κ] {table : Table key} {condition : ρ → Bool} {change : ρ → ρ}
    {keeps : ∀ row, key (change row) = key row} (wanted : κ) :
    (table.modify condition change keeps).get? wanted =
      (table.get? wanted).map fun row => if condition row then change row else row := by
  -- A change keeps the keys, so the search ends at the same row.
  cases found : table.get? wanted with
  | none =>
    rw [Option.map_none, get?_eq_none]
    intro row member
    obtain ⟨old, among, rfl⟩ := mem_modify.mp member
    have unused := get?_eq_none.mp found old among
    by_cases met : condition old <;> simp [met, keeps, unused]
  | some old =>
    obtain ⟨member, named⟩ := get?_eq_some.mp found
    refine get?_eq_some.mpr ⟨mem_modify.mpr ⟨old, member, rfl⟩, ?_⟩
    by_cases met : condition old <;> simp [met, keeps, named]

/-- Writing back a list of rows, each changed, changes exactly the rows under their keys. -/
theorem rows_foldl_set [DecidableEq κ] {change : ρ → ρ} (keeps : ∀ row, key (change row) = key row)
    (pending : List ρ) (distinct : (pending.map key).Nodup) (table : Table key)
    (present : ∀ row ∈ pending, row ∈ table) :
    (pending.foldl (fun current row => current.set (change row)) table).rows =
      table.rows.map fun row => if key row ∈ pending.map key then change row else row := by
  -- Each write replaces one row and leaves the rows still to be written in place.
  induction pending generalizing table with
  | nil => simp
  | cons head rest ih =>
    obtain ⟨unique, others⟩ := List.nodup_cons.mp distinct
    have headPresent := present head List.mem_cons_self
    have later : ∀ row ∈ rest, row ∈ table.set (change head) := by
      intro row member
      refine mem_set.mpr (Or.inr ⟨present row (List.mem_cons_of_mem _ member), ?_⟩)
      rw [keeps]
      exact fun same => unique (same ▸ List.mem_map_of_mem member)
    rw [List.foldl_cons, ih others _ later]
    show (table.rows.map _).map _ = _
    rw [List.map_map]
    refine List.map_congr_left fun row member => ?_
    by_cases same : key row = key head
    · have equal : row = head := eq_of_key member headPresent same
      subst equal
      simp only [Function.comp_apply, keeps, if_true, if_neg unique, List.map_cons,
        List.mem_cons_self]
    · simp [keeps, same]

/-- Writing back every row that satisfies a condition, changed, is changing those rows. -/
theorem foldl_set_eq_modify [DecidableEq κ] {condition : ρ → Bool} {change : ρ → ρ}
    (keeps : ∀ row, key (change row) = key row) (table : Table key) :
    (table.rows.filter condition).foldl (fun current row => current.set (change row)) table =
      table.modify condition change keeps := by
  -- Each row that is written back has its own key, so the writes do not meet.
  refine ext ?_
  have distinct : ((table.rows.filter condition).map key).Nodup :=
    table.nodup.sublist (List.filter_sublist.map key)
  rw [rows_foldl_set keeps _ distinct _ fun row member => (List.mem_filter.mp member).1]
  refine List.map_congr_left fun row member => ?_
  have chosen : key row ∈ (table.rows.filter condition).map key ↔ condition row = true := by
    constructor
    · intro among
      obtain ⟨other, kept, same⟩ := List.mem_map.mp among
      obtain ⟨present, met⟩ := List.mem_filter.mp kept
      rwa [← eq_of_key present member same]
    · exact fun met => List.mem_map_of_mem (List.mem_filter.mpr ⟨member, met⟩)
  by_cases met : condition row = true <;> simp [chosen, met]

end Table

end Foundation
