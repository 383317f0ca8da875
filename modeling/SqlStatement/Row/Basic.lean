import SqlStatement.Value.Basic

/-!
# Rows

A `Row` is a list of cells, each a value under a column name, in the order in which the engine
gave them. Names may repeat: `Row.get` finds the first cell of a name.
-/

namespace SqlStatement

structure Row where
  cells : List (String × Value)
  deriving DecidableEq, Inhabited

namespace Row

def empty : Row := ⟨[]⟩

/-- Pairs names and values; what is left over of the longer list is dropped. -/
def ofLists (columns : List String) (values : List Value) : Row := ⟨columns.zip values⟩

def push (row : Row) (column : String) (value : Value) : Row := ⟨row.cells ++ [(column, value)]⟩

def columns (row : Row) : List String := row.cells.map Prod.fst

def values (row : Row) : List Value := row.cells.map Prod.snd

def length (row : Row) : Nat := row.cells.length

def isEmpty (row : Row) : Bool := row.cells.isEmpty

/-- The value of the first column of this name. -/
def get (row : Row) (column : String) : Option Value := row.cells.lookup column

def getIndex (row : Row) (index : Nat) : Option Value := row.values[index]?

/-- The same names with the same values, reals compared as numbers. -/
def sameAs (a b : Row) : Bool :=
  decide (a.columns = b.columns) && (a.values.zipWith Value.sameAs b.values).all id

theorem columns_push (row : Row) (column : String) (value : Value) :
    (row.push column value).columns = row.columns ++ [column] := by
  simp [push, columns]

theorem values_push (row : Row) (column : String) (value : Value) :
    (row.push column value).values = row.values ++ [value] := by
  simp [push, values]

end Row

end SqlStatement
