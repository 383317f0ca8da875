import SqlStatement.Proofs.Row.Views
import SqlStatement.Row.Parallel

/-!
# The two lists of a row stay paired

A row is begun empty or with two lists of any lengths, and cells are pushed to it. Whether it is
held as two lists or as a list of cells, it is the same row (`ParallelRow.Represents`): that is so
at the beginning, and a push keeps it.

* `Represents.get_eq`, `Represents.cells_eq`: so either form gives the same answers, and looking for
  a name never ends at a position without a value.
* `lists_stay_paired`: what this says of the two lists themselves.
-/

namespace SqlStatement

inductive RowBeginning where
  | empty
  | lists (columns : List String) (values : List Value)

/-- The cells that two lists begin a row with, as many as the shorter list has. -/
def RowBeginning.cells : RowBeginning → List (String × Value)
  | .empty => []
  | .lists columns values =>
    (columns.take (min columns.length values.length)).zip
      (values.take (min columns.length values.length))

/-! ## Rows as lists of cells -/

namespace Row

def begin : RowBeginning → Row
  | .empty => .empty
  | .lists columns values => .ofLists columns values

def pushAll (row : Row) (cells : List (String × Value)) : Row :=
  cells.foldl (fun row cell => row.push cell.1 cell.2) row

theorem pushAll_eq (row : Row) (cells : List (String × Value)) :
    row.pushAll cells = ⟨row.cells ++ cells⟩ := by
  induction cells generalizing row with
  | nil => simp [pushAll]
  | cons cell cells ih =>
    have hcons : row.pushAll (cell :: cells) = (row.push cell.1 cell.2).pushAll cells := rfl
    rw [hcons, ih]
    simp [push]

/-- Beginning a row is the same as pushing its first cells to an empty one. -/
theorem begin_eq_pushAll (beginning : RowBeginning) :
    begin beginning = empty.pushAll beginning.cells := by
  rw [pushAll_eq]
  cases beginning with
  | empty => rfl
  | lists columns values => exact congrArg Row.mk List.zip_eq_zip_take_min

/-- The first cell of a name stays the first, whatever is pushed behind it. -/
theorem get_pushAll {row : Row} {column : String} (h : column ∈ row.columns)
    (cells : List (String × Value)) : (row.pushAll cells).get column = row.get column := by
  obtain ⟨value, hvalue⟩ := Option.isSome_iff_exists.mp (isSome_get_iff.mpr h)
  obtain ⟨before, after, hcells, hbefore⟩ := get_eq_some_iff.mp hvalue
  rw [hvalue, get_eq_some_iff]
  refine ⟨before, after ++ cells, ?_, hbefore⟩
  rw [pushAll_eq, hcells, List.append_assoc, List.cons_append]

end Row

/-! ## Rows as two lists -/

namespace ParallelRow

def begin : RowBeginning → ParallelRow
  | .empty => .empty
  | .lists columns values => .ofLists columns values

def pushAll (lists : ParallelRow) (cells : List (String × Value)) : ParallelRow :=
  cells.foldl (fun lists cell => lists.push cell.1 cell.2) lists

/-- Pushing adds to each list what belongs to it. -/
theorem pushAll_eq (lists : ParallelRow) (cells : List (String × Value)) :
    lists.pushAll cells =
      ⟨lists.columns ++ cells.map Prod.fst, lists.values ++ cells.map Prod.snd⟩ := by
  induction cells generalizing lists with
  | nil => simp [pushAll]
  | cons cell cells ih =>
    have hcons : lists.pushAll (cell :: cells) = (lists.push cell.1 cell.2).pushAll cells := rfl
    rw [hcons, ih]
    simp [push]

/-- Beginning a row is the same as pushing its first cells to an empty one. -/
theorem begin_eq_pushAll (beginning : RowBeginning) :
    begin beginning = empty.pushAll beginning.cells := by
  cases beginning with
  | empty => rfl
  | lists columns values =>
    have hlength : (columns.take (min columns.length values.length)).length =
        (values.take (min columns.length values.length)).length := by
      rw [List.length_take, List.length_take]
      omega
    rw [pushAll_eq, RowBeginning.cells, List.map_fst_zip (Nat.le_of_eq hlength),
      List.map_snd_zip (Nat.le_of_eq hlength.symm)]
    rfl

/-- The lists hold the names and the values of these cells. -/
structure Represents (lists : ParallelRow) (row : Row) : Prop where
  columns : lists.columns = row.columns
  values : lists.values = row.values

theorem represents_empty : empty.Represents .empty := ⟨rfl, rfl⟩

theorem Represents.push {lists : ParallelRow} {row : Row} (h : lists.Represents row)
    (column : String) (value : Value) :
    (lists.push column value).Represents (row.push column value) := by
  constructor
  · rw [Row.columns_push, ← h.columns]
    rfl
  · rw [Row.values_push, ← h.values]
    rfl

theorem Represents.pushAll {lists : ParallelRow} {row : Row} (h : lists.Represents row)
    (cells : List (String × Value)) : (lists.pushAll cells).Represents (row.pushAll cells) := by
  induction cells generalizing lists row with
  | nil => exact h
  | cons cell cells ih => exact ih (h.push cell.1 cell.2)

theorem represents_begin (beginning : RowBeginning) :
    (begin beginning).Represents (Row.begin beginning) := by
  rw [begin_eq_pushAll, Row.begin_eq_pushAll]
  exact represents_empty.pushAll beginning.cells

/-! ## Reading a row -/

theorem valueAt_of_lt {lists : ParallelRow} {position : Nat} (h : position < lists.values.length) :
    lists.valueAt position = .ok lists.values[position] := by
  rw [valueAt, List.getElem?_eq_getElem h]

namespace Represents

variable {lists : ParallelRow} {row : Row}

theorem length_values (h : lists.Represents row) : lists.values.length = lists.length := by
  rw [length, h.columns, h.values, Row.columns, Row.values, List.length_map, List.length_map]

theorem cells_eq (h : lists.Represents row) : lists.cells = row.cells := by
  rw [cells, h.columns, h.values, Row.zip_columns_values]

theorem length_eq (h : lists.Represents row) : lists.length = row.length := by
  rw [length, h.columns, Row.columns, List.length_map]
  rfl

theorem getIndex_eq (h : lists.Represents row) (index : Nat) :
    lists.getIndex index = row.getIndex index := by
  rw [getIndex, h.values]
  rfl

/-- The position of a name has a value. -/
theorem get_eq (h : lists.Represents row) (column : String) :
    lists.get column = .ok (row.get column) := by
  rw [get, Row.get_eq_getIndex, ← h.columns]
  cases hposition : lists.columns.idxOf? column with
  | none => rfl
  | some position =>
    obtain ⟨hlt, -, -⟩ := List.idxOf?_eq_some_iff.mp hposition
    have hvalue : position < lists.values.length := by
      rw [h.length_values]
      exact hlt
    have hindex : lists.getIndex position = some lists.values[position] :=
      List.getElem?_eq_getElem hvalue
    rw [Option.bind_some, ← h.getIndex_eq, hindex]
    change (lists.valueAt position).map some = _
    rw [valueAt_of_lt hvalue]
    rfl

/-- Every position holds a name and a value, which are a cell. -/
theorem exists_cell (h : lists.Represents row) {index : Nat} (hindex : index < lists.length) :
    ∃ column value, lists.columns[index]? = some column ∧ lists.values[index]? = some value ∧
      lists.getIndex index = some value ∧ lists.cells[index]? = some (column, value) := by
  have hvalue : index < lists.values.length := by
    rw [h.length_values]
    exact hindex
  have hcolumns : lists.columns[index]? = some lists.columns[index] :=
    List.getElem?_eq_getElem hindex
  have hvalues : lists.values[index]? = some lists.values[index] :=
    List.getElem?_eq_getElem hvalue
  exact ⟨_, _, hcolumns, hvalues, hvalues, List.getElem?_zip_eq_some.mpr ⟨hcolumns, hvalues⟩⟩

/-- A name is looked for at its least position. -/
theorem get_cases (h : lists.Represents row) (column : String) :
    (column ∉ lists.columns ∧ lists.get column = .ok none) ∨
      ∃ (index : Nat) (value : Value), lists.columns[index]? = some column ∧
        (∀ earlier < index, lists.columns[earlier]? ≠ some column) ∧
        lists.values[index]? = some value ∧ lists.get column = .ok (some value) := by
  have hget := h.get_eq column
  rw [Row.get_eq_getIndex, ← h.columns] at hget
  cases hposition : lists.columns.idxOf? column with
  | none =>
    rw [hposition] at hget
    exact .inl ⟨List.idxOf?_eq_none_iff.mp hposition, hget⟩
  | some index =>
    obtain ⟨hlt, hname, hleast⟩ := List.idxOf?_eq_some_iff.mp hposition
    obtain ⟨name, value, hcolumn, hvalue, hindex, -⟩ := h.exists_cell hlt
    rw [hposition, Option.bind_some, ← h.getIndex_eq, hindex] at hget
    refine .inr ⟨index, value, ?_, ?_, hvalue, hget⟩
    · rw [List.getElem?_eq_getElem hlt, hname]
    · intro earlier hearlier
      rw [List.getElem?_eq_getElem (Nat.lt_trans hearlier hlt)]
      simpa using hleast earlier hearlier

end Represents

/-- **The two lists of a row stay paired.** However a row is begun and whatever is pushed to it:
* its lists have one length, and its cells are the pairs of what stands at the same position;
* looking for a name never ends at a position without a value, and gives the value at the least
  position of the name, or nothing exactly if no column has this name;
* pushing more changes neither the value of a name that is there nor the value at a position;
* a row of two lists is what comes of pushing their first cells, as many as the shorter list has, to
  an empty row;
* the row that is made in the same way as a list of cells has these lists and gives these
  answers. -/
theorem lists_stay_paired (beginning : RowBeginning) (pushed : List (String × Value)) :
    let lists := (begin beginning).pushAll pushed
    let row := (Row.begin beginning).pushAll pushed
    (lists.columns.length = lists.length ∧ lists.values.length = lists.length ∧
      lists.cells.length = lists.length) ∧
    (∀ index < lists.length, ∃ column value,
      lists.columns[index]? = some column ∧ lists.values[index]? = some value ∧
        lists.getIndex index = some value ∧ lists.cells[index]? = some (column, value)) ∧
    (∀ column, (column ∉ lists.columns ∧ lists.get column = .ok none) ∨
      ∃ (index : Nat) (value : Value), lists.columns[index]? = some column ∧
        (∀ earlier < index, lists.columns[earlier]? ≠ some column) ∧
        lists.values[index]? = some value ∧ lists.get column = .ok (some value)) ∧
    (∀ more, (∀ column ∈ lists.columns, (lists.pushAll more).get column = lists.get column) ∧
      ∀ index < lists.length, (lists.pushAll more).getIndex index = lists.getIndex index) ∧
    (∀ columns values,
      let first := (columns.take (min columns.length values.length)).zip
        (values.take (min columns.length values.length))
      begin (.lists columns values) = (begin .empty).pushAll first ∧
        Row.begin (.lists columns values) = (Row.begin .empty).pushAll first) ∧
    (lists.columns = row.columns ∧ lists.values = row.values ∧ lists.cells = row.cells) ∧
    (lists.length = row.length ∧ lists.isEmpty = row.isEmpty) ∧
    (∀ column, lists.get column = .ok (row.get column)) ∧
    ∀ index, lists.getIndex index = row.getIndex index := by
  intro lists row
  have h : lists.Represents row := (represents_begin beginning).pushAll pushed
  refine ⟨⟨rfl, h.length_values, ?_⟩, fun _ => h.exists_cell, h.get_cases, fun more => ⟨?_, ?_⟩,
    fun columns values => ⟨begin_eq_pushAll _, Row.begin_eq_pushAll _⟩,
    ⟨h.columns, h.values, h.cells_eq⟩, ⟨h.length_eq, ?_⟩, h.get_eq, h.getIndex_eq⟩
  · rw [h.cells_eq, h.length_eq]
    rfl
  · intro column hcolumn
    rw [h.columns] at hcolumn
    rw [(h.pushAll more).get_eq, h.get_eq, Row.get_pushAll hcolumn]
  · intro index hindex
    rw [← h.length_values] at hindex
    rw [getIndex, getIndex, pushAll_eq, List.getElem?_append_left hindex]
  · rw [isEmpty, h.columns, Row.columns, List.isEmpty_map]
    rfl

end ParallelRow

end SqlStatement
