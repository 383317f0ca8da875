import SqlStatement.Engine.Expression
import SqlStatement.Sqlite.Storage

/-!
# Tables

A `TableDefinition` is what a statement says about a table that it creates: its name, and its
columns with their constraints. A table can also be made from the columns of a selection, which has
no constraints.
-/

namespace SqlStatement

/-- A column in a key, in a definition that may also put another expression in its place. -/
structure KeyPart where
  /-- The column, if the expression is one. -/
  column : Option String
  collation : Option String
  /-- Says where nulls are put. -/
  placesNulls : Bool
  deriving DecidableEq

inductive ColumnConstraint where
  /-- A constraint that every definition may have. -/
  | plain
  | default (value : Expression)
  | primaryKey (descending autoincrement : Bool)
  | check (condition : Expression)
  /-- A reference to so many columns of another table, if it names them. -/
  | references (targets : Option Nat)
  | collate (name : String)
  /-- A value that is computed, and the word for how it is kept. -/
  | generated (value : Expression) (kind : Option String)
  deriving DecidableEq

/-- The constraint computes the value of its column. -/
def ColumnConstraint.isGenerated : ColumnConstraint → Bool
  | .generated _ _ => true
  | _ => false

structure ColumnDefinition where
  name : String
  /-- The words of the type. -/
  type : List String
  /-- The type has sizes. -/
  isSized : Bool
  constraints : List ColumnConstraint
  deriving DecidableEq

inductive TableConstraint where
  /-- A constraint that every definition may have. -/
  | plain
  | primaryKey (parts : List KeyPart) (autoincrement : Bool)
  | unique (parts : List KeyPart)
  | check (condition : Expression)
  | foreignKey (columns : List String) (targets : Option Nat)
  deriving DecidableEq

/-- What stands after the brackets of a definition. -/
inductive TableOption where
  | without (name : String)
  | named (name : String)
  deriving DecidableEq

structure TableName where
  schema : Option String
  name : String
  deriving DecidableEq

structure TableDefinition where
  columns : List ColumnDefinition
  constraints : List TableConstraint
  options : List TableOption
  deriving DecidableEq

namespace ColumnDefinition

/-- The words of the type, up to the words for a computed value. -/
def typeWords (column : ColumnDefinition) : List String :=
  let words := column.type.map String.toUpper
  if words.getLast? = some "ALWAYS" then
    let front := words.dropLast
    if front.getLast? = some "GENERATED" then front.dropLast else front
  else words

/-- The types that are not merely words. -/
def properTypes : List String := ["ANY", "BLOB", "INT", "INTEGER", "REAL", "TEXT"]

/-- The type, if it is a proper one. -/
def properType? (column : ColumnDefinition) : Option String :=
  match column.typeWords with
  | [word] => if word ∈ properTypes ∧ ¬column.isSized then some word else none
  | _ => none

def isGenerated (column : ColumnDefinition) : Bool :=
  column.constraints.any ColumnConstraint.isGenerated

end ColumnDefinition

namespace TableDefinition

def column? (table : TableDefinition) (name : String) : Option ColumnDefinition :=
  table.columns.find? fun column => column.name.toLower == name.toLower

def hasOption (table : TableDefinition) (option : TableOption) : Bool :=
  table.options.any fun other =>
    match option, other with
    | .without name, .without other => name == other.toLower
    | .named name, .named other => name == other.toLower
    | _, _ => false

def isWithoutRowid (table : TableDefinition) : Bool := table.hasOption (.without "rowid")

def isStrict (table : TableDefinition) : Bool := table.hasOption (.named "strict")

end TableDefinition

end SqlStatement
