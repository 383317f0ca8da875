import SqlStatement.Row.Basic

/-!
# Rows as parallel lists

A row can be held as two lists, one of its names and one of its values. Nothing in the type says
that the two have one length. Both are cut to the shorter of them when a row is made of lists
(`ParallelRow.ofLists`), and a cell is added to both at once (`ParallelRow.push`).

`ParallelRow.get` looks for the position of a name and takes the value at this position without
asking whether there is one, so a position behind the last value is a `PositionFault`.
-/

namespace SqlStatement

/-- A position behind the end of a list of this length. -/
structure PositionFault where
  position : Nat
  length : Nat
  deriving DecidableEq

/-- The names of a row, and its values in the same order. -/
structure ParallelRow where
  columns : List String
  values : List Value
  deriving DecidableEq

namespace ParallelRow

def empty : ParallelRow := ⟨[], []⟩

/-- Cuts both lists to the length of the shorter one. -/
def ofLists (columns : List String) (values : List Value) : ParallelRow :=
  let length := min columns.length values.length
  ⟨columns.take length, values.take length⟩

def push (row : ParallelRow) (column : String) (value : Value) : ParallelRow :=
  ⟨row.columns ++ [column], row.values ++ [value]⟩

/-- The value at a position where one has to be. -/
def valueAt (row : ParallelRow) (position : Nat) : Except PositionFault Value :=
  match row.values[position]? with
  | some value => .ok value
  | none => .error ⟨position, row.values.length⟩

/-- The value at the position of the first column of this name. -/
def get (row : ParallelRow) (column : String) : Except PositionFault (Option Value) :=
  match row.columns.idxOf? column with
  | some position => (row.valueAt position).map some
  | none => .ok none

def getIndex (row : ParallelRow) (index : Nat) : Option Value := row.values[index]?

def length (row : ParallelRow) : Nat := row.columns.length

def isEmpty (row : ParallelRow) : Bool := row.columns.isEmpty

def cells (row : ParallelRow) : List (String × Value) := row.columns.zip row.values

end ParallelRow

end SqlStatement
