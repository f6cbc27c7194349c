/-!
# Tables

A table numbers its rows in the order in which they are added. Rows are never removed
and numbers are never given twice, so a number stands for one row for good.
-/

namespace SocketMux

/-- Rows by number. -/
structure Table (α : Type) where
  rows : List α
deriving DecidableEq, Repr

namespace Table

variable {α : Type}

/-- The table without rows. -/
def empty : Table α := ⟨[]⟩

/-- The number of rows, which is the number of the next row. -/
def size (table : Table α) : Nat := table.rows.length

/-- The row of a number. -/
def get? (table : Table α) (number : Nat) : Option α := table.rows[number]?

/-- Add a row under the next number. -/
def add (table : Table α) (row : α) : Nat × Table α :=
  (table.rows.length, ⟨table.rows ++ [row]⟩)

/-- Change the row of a number; a number without a row changes nothing. -/
def modify (table : Table α) (number : Nat) (change : α → α) : Table α :=
  ⟨table.rows.modify number change⟩

/-- Change all rows. -/
def map (table : Table α) (change : α → α) : Table α := ⟨table.rows.map change⟩

/-- The numbers of the rows with a property, in ascending order. -/
def numbersWhere (table : Table α) (property : α → Bool) : List Nat :=
  (List.range table.size).filter fun number => (table.get? number).any property

@[simp]
theorem add_fst (table : Table α) (row : α) : (table.add row).1 = table.size := rfl

@[simp]
theorem get?_add_size (table : Table α) (row : α) :
    (table.add row).2.get? table.size = some row := by
  simp [get?, add, size]

theorem get?_add_of_lt (table : Table α) (row : α) {number : Nat} (bounded : number < table.size) :
    (table.add row).2.get? number = table.get? number := by
  simp only [get?, add, size] at *
  exact List.getElem?_append_left bounded

@[simp]
theorem get?_modify (table : Table α) (number other : Nat) (change : α → α) :
    (table.modify number change).get? other =
      if number = other then (table.get? other).map change else table.get? other := by
  simp only [get?, modify, List.getElem?_modify]
  split <;> simp

/-- A row that is changed as soon as it is added might have been added that way. -/
theorem modify_add_size (table : Table α) (row : α) (change : α → α) :
    (table.add row).2.modify table.size change = (table.add (change row)).2 := by
  have whole : (table.rows ++ [row]).modify table.rows.length change =
      table.rows ++ [change row] := by
    rw [List.modify_eq_take_cons_drop]
    all_goals simp
  exact congrArg Table.mk whole

@[simp]
theorem get?_map (table : Table α) (number : Nat) (change : α → α) :
    (table.map change).get? number = (table.get? number).map change := by
  simp [get?, map]

@[simp]
theorem size_modify (table : Table α) (number : Nat) (change : α → α) :
    (table.modify number change).size = table.size := by
  simp [size, modify]

/-- A reading of rows and numbers that does not see a change is as before. -/
theorem map_zipIdx_modify {β : Type} (table : Table α) (number : Nat) {change : α → α}
    (reading : α × Nat → β)
    (unseen : ∀ row index, reading (change row, index) = reading (row, index)) :
    (table.modify number change).rows.zipIdx.map reading = table.rows.zipIdx.map reading := by
  apply List.ext_getElem?
  intro index
  simp only [modify, List.getElem?_map, List.getElem?_zipIdx, List.getElem?_modify]
  split
  · cases table.rows[index]? with
    | none => rfl
    | some row => exact congrArg some (unseen row _)
  · simp

/-- A reading of rows that does not see a change is as before. -/
theorem map_modify {β : Type} (table : Table α) (number : Nat) {change : α → α}
    (reading : α → β) (unseen : ∀ row, reading (change row) = reading row) :
    (table.modify number change).rows.map reading = table.rows.map reading := by
  have both := table.map_zipIdx_modify number (reading ∘ Prod.fst) fun row _ => unseen row
  simpa only [← List.map_map, List.zipIdx_map_fst] using both

end Table

end SocketMux
