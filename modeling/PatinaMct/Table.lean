import PatinaMct.Checked
/-!
# Table — rows under uniqueness constraints

A table has rows of which no two clash: agree in a column that is a key or declared unique.  A row that clashes with a
stored one cannot be inserted, a query returns the rows in a given order, and a table whose rows were inserted in that
order is read back as it was written.
-/

/-- **The rows of a table**, in the order of their insertion. -/
structure Table {R : Type} (clash : R → R → Bool) where
  rows : List R
  distinct : rows.Pairwise fun a b => clash a b = false

namespace Table

variable {R : Type} {clash : R → R → Bool} {table table' : Table clash} {row : R} {rows : List R}

def empty : Table clash := ⟨[], .nil⟩

@[ext] theorem ext (h : table.rows = table'.rows) : table = table' := by
  cases table
  cases table'
  cases h
  rfl

def insert (table : Table clash) (row : R) : Option (Table clash) :=
  if h : ∀ stored ∈ table.rows, clash stored row = false then
    some ⟨table.rows ++ [row], List.pairwise_append.mpr ⟨table.distinct, List.pairwise_singleton _ _,
      fun stored hstored _ hrow => List.mem_singleton.mp hrow ▸ h stored hstored⟩⟩
  else none

theorem insert_some :
    table.insert row = some table' ↔
      (∀ stored ∈ table.rows, clash stored row = false) ∧ table'.rows = table.rows ++ [row] := by
  unfold insert
  split
  · rename_i h
    constructor
    · rintro hsome
      cases hsome
      exact ⟨h, rfl⟩
    · rintro ⟨-, hrows⟩
      exact congrArg some (Table.ext hrows.symm)
  · rename_i h
    exact ⟨fun hsome => (by cases hsome), fun hrow => absurd hrow.1 h⟩

def insertAll (table : Table clash) (rows : List R) : Option (Table clash) := rows.foldlM insert table

theorem insertAll_some :
    table.insertAll rows = some table' ↔
      (table.rows ++ rows).Pairwise (fun a b => clash a b = false) ∧ table'.rows = table.rows ++ rows := by
  induction rows generalizing table with
  | nil =>
    rw [List.append_nil]
    constructor
    · rintro h
      cases h
      exact ⟨table'.distinct, rfl⟩
    · rintro ⟨-, h⟩
      exact congrArg some (Table.ext h.symm)
  | cons row rows ih =>
    show (table.insert row).bind (fun next => next.insertAll rows) = some table' ↔ _
    rw [Option.bind_eq_some_iff]
    constructor
    · rintro ⟨next, hnext, hall⟩
      obtain ⟨-, hrows⟩ := insert_some.mp hnext
      rw [ih, hrows, List.append_assoc] at hall
      exact hall
    · rintro ⟨hdistinct, hrows⟩
      obtain ⟨-, -, hclash⟩ := List.pairwise_append.mp hdistinct
      have hrow : ∀ stored ∈ table.rows, clash stored row = false :=
        fun stored hstored => hclash stored hstored row List.mem_cons_self
      obtain ⟨next, hnext⟩ : ∃ next, table.insert row = some next :=
        Option.isSome_iff_exists.mp (by rw [insert, dif_pos hrow]; rfl)
      refine ⟨next, hnext, ih.mpr ?_⟩
      rw [(insert_some.mp hnext).2, List.append_assoc]
      exact ⟨hdistinct, hrows⟩

/-! ## Queries -/

/-- `SELECT … ORDER BY`. -/
def select (table : Table clash) (le : R → R → Prop) [DecidableRel le] : List R := table.rows.insertionSort le

theorem select_of_sorted {le : R → R → Prop} [DecidableRel le] (h : table.rows.Pairwise le) :
    table.select le = table.rows := List.Pairwise.insertionSort_eq h

end Table
