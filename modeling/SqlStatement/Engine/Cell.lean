import SqlStatement.Sqlite.Storage

/-!
# Cells of the stand-in

What is bound comes back as it was bound, but a NaN is null. A cell of a row is told by its storage
class and read as its content. The executor asks for no cell as something else, so there is nothing
to be converted.
-/

namespace SqlStatement

def Argument.cell : Argument → Cell
  | .double x => if x.isNaN then .null else .real x
  | argument => argument.content

def Cell.className : Cell → String
  | .null => "NULL"
  | .integer _ => "INTEGER"
  | .real _ => "REAL"
  | .text _ => "TEXT"
  | .blob _ => "BLOB"

/-- The cells of a row under the names of their columns. -/
abbrev CellRow := List (String × Cell)

namespace CellRow

def readAt {α : Type} (read : Cell → Option α) (row : CellRow) (place : Nat) :
    Except EngineError α :=
  match row[place]? with
  | none => .error (.other "column index out of bounds" [])
  | some cell =>
    match read cell.2 with
    | some a => .ok a
    | none => .error (.protocol "a cell of another class")

instance : SqliteRow CellRow where
  columns row := row.mapIdx fun place cell => ⟨place, cell.1⟩
  rawAt := readAt fun cell => some ⟨cell == .null, cell.className⟩
  int64At := readAt fun
    | .integer n => some n
    | _ => none
  doubleAt := readAt fun
    | .real x => some x
    | _ => none
  textAt := readAt fun
    | .text s => some s
    | _ => none
  bytesAt := readAt fun
    | .blob bytes => some bytes
    | _ => none

end CellRow

end SqlStatement
