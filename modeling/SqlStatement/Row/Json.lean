import SqlStatement.Error
import SqlStatement.Row.Basic
import SqlStatement.Value.Json

/-!
# Rows as JSON

`Row.toJson` is an object: its keys are the column names in ascending order, and of several cells
of one name the last is kept. `Row.written` keeps every cell, in column order. A row is read as a
record through `Row.toJson` (`Row.read`).
-/

namespace SqlStatement.Row

/-- The plain JSON form of every cell under its column name, in column order. -/
def members (row : Row) : Members Json := row.cells.map fun cell => (cell.1, cell.2.toJson)

/-- The object of the cells: keys ascending, the last cell of a name. -/
def toJson (row : Row) : Json := .obj (Members.ofList row.members)

/-- The object of all cells in column order. -/
def written (row : Row) : Json := .obj row.members

def read (α : Type) [Decode α] (row : Row) : Except Error α :=
  match (decode row.toJson : Except DecodeError α) with
  | .ok a => .ok a
  | .error e => .error (.serialization e)

theorem read_eq_ok_iff {α : Type} [Decode α] {row : Row} {a : α} :
    row.read α = .ok a ↔ (decode row.toJson : Except DecodeError α) = .ok a := by
  unfold read
  cases (decode row.toJson : Except DecodeError α) <;> simp

/-- What reading a row fails with is the failure to decode it. -/
theorem read_eq_error_iff {α : Type} [Decode α] {row : Row} {e : Error} :
    row.read α = .error e ↔
      ∃ cause, (decode row.toJson : Except DecodeError α) = .error cause ∧
        e = .serialization cause := by
  unfold read
  cases (decode row.toJson : Except DecodeError α) <;> simp [eq_comm]

end SqlStatement.Row
