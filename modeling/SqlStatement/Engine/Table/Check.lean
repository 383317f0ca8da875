import SqlStatement.Engine.Function
import SqlStatement.Engine.Table.Basic
import SqlStatement.Error

/-!
# Whether a table can be made

A definition that reads well can still be refused. `TableDefinition.check` looks for columns of one
name, keys that are no columns, more than one primary key, values that are no constants, conditions
that mention what a row does not have, and types that a strict table does not know.
-/

namespace SqlStatement

namespace TableDefinition

/-- The rules for an expression, by the place it stands in. -/
inductive Place where
  | condition
  | computed
  deriving DecidableEq

/-- The names that every row has a number under. -/
def rowNumbers : List String := ["rowid", "oid", "_rowid_"]

def isTruth (quote : Option Char) (name : String) : Bool :=
  quote.isNone && (name.toLower == "true" || name.toLower == "false")

/-- A value is constant if it mentions no column and no variable. -/
def isConstant (value : Expression) : Bool :=
  value.all fun mention =>
    match mention with
    | .call _ _ | .collation _ | .failure => true
    | .column quote name => isTruth quote name
    | _ => false

/-- The row has a value of this name. A condition may use the number of the row. -/
def hasValue (table : TableDefinition) (place : Place) (name : String) : Bool :=
  (table.column? name).isSome ||
    (place = .condition && !table.isWithoutRowid && rowNumbers.contains name.toLower)

def collations : List String := ["binary", "nocase", "rtrim"]

def isCollation (name : String) : Bool := collations.contains name.toLower

/-- The expression mentions only what it may. A name in double quotes that is no column is a
text. -/
def mentionsKnown (table : TableDefinition) (tableName : String) (place : Place)
    (expression : Expression) : Bool :=
  expression.all fun mention =>
    match mention with
    | .variable => false
    | .column quote name => table.hasValue place name || isTruth quote name || quote = some '"'
    | .path names =>
      match names.reverse with
      | column :: owner :: _ =>
        place = .condition && owner.toLower == tableName.toLower && table.hasValue place column
      | _ => false
    | .call function arity =>
      (SqlFunction.find? function arity).any fun function =>
        place = .condition || function.isDeterministic
    | .collation name => isCollation name
    | .failure => false

/-- The part of a key is a column, and compared in a way that there is. -/
def isKeyPart (table : TableDefinition) (part : KeyPart) : Bool :=
  part.column.any (fun name => (table.column? name).isSome) && part.collation.all isCollation &&
    !part.placesNulls

def isPrimaryKey (table : TableDefinition) (parts : List KeyPart) (autoincrement : Bool) : Bool :=
  let columns := parts.filterMap fun part => part.column.bind table.column?
  let isInteger := match parts, columns with
    | [part], [column] => column.properType? = some "INTEGER" && !part.placesNulls
    | _, _ => false
  !columns.any ColumnDefinition.isGenerated &&
    (isInteger || (!autoincrement && parts.all table.isKeyPart))

def isColumnConstraint (table : TableDefinition) (tableName : String) (column : ColumnDefinition) :
    ColumnConstraint → Bool
  | .plain => true
  | .default value => isConstant value && !column.isGenerated
  | .primaryKey descending autoincrement =>
    !column.isGenerated &&
      (!autoincrement || (!descending && column.properType? = some "INTEGER"))
  | .check condition => table.mentionsKnown tableName .condition condition
  | .references targets => targets.all (· == 1)
  | .collate name => isCollation name
  | .generated value kind =>
    table.mentionsKnown tableName .computed value &&
      kind.all fun kind => kind.toLower == "stored" || kind.toLower == "virtual"

def isTableConstraint (table : TableDefinition) (tableName : String) : TableConstraint → Bool
  | .plain => true
  | .primaryKey parts autoincrement => table.isPrimaryKey parts autoincrement
  | .unique parts => parts.all table.isKeyPart
  | .check condition => table.mentionsKnown tableName .condition condition
  | .foreignKey columns targets =>
    columns.all (fun name => (table.column? name).isSome) && targets.all (· == columns.length)

/-- What is said of the primary key: for each mention, whether the engine counts it up. -/
def primaryKeys (table : TableDefinition) : List Bool :=
  (table.columns.flatMap fun column => column.constraints.filterMap fun constraint =>
    match constraint with
    | .primaryKey _ autoincrement => some autoincrement
    | _ => none) ++
  table.constraints.filterMap fun constraint =>
    match constraint with
    | .primaryKey _ autoincrement => some autoincrement
    | _ => none

/-- The columns that are computed whenever they are read, with their values. -/
def computed (table : TableDefinition) : List (String × Expression) :=
  table.columns.flatMap fun column => column.constraints.filterMap fun constraint =>
    match constraint with
    | .generated value kind =>
      if kind.any (·.toLower == "stored") then none else some (column.name.toLower, value)
    | _ => none

/-- The columns whose values mention, of the computed columns, only those in `known`. -/
def computable (columns : List (String × Expression)) (known : List String) : List String :=
  (columns.filter fun (_, value) => value.all fun mention =>
    match mention with
    | .column _ name =>
      known.contains name.toLower || !(columns.map Prod.fst).contains name.toLower
    | _ => true).map Prod.fst

/-- No column is computed from itself. -/
def hasNoLoop (table : TableDefinition) : Bool :=
  let columns := table.computed
  let known := Nat.repeat (computable columns) columns.length []
  columns.all fun (name, _) => known.contains name

/-- The columns have different names, and one of them is not computed. -/
def columnsOk (table : TableDefinition) : Bool :=
  decide (table.columns.map fun column => column.name.toLower).Nodup &&
    decide (table.columns.length ≤ maxColumns) &&
    !table.columns.all ColumnDefinition.isGenerated &&
    table.columns.all fun column =>
      decide ((column.constraints.filter ColumnConstraint.isGenerated).length ≤ 1)

def optionsOk (table : TableDefinition) : Bool :=
  (table.options.all fun option =>
    match option with
    | .without name => name.toLower == "rowid"
    | .named name => name.toLower == "strict") &&
  (!table.isStrict || table.columns.all fun column => column.properType?.isSome) &&
  (!table.isWithoutRowid || table.primaryKeys = [false])

/-- The table can be made under this name. -/
def check (table : TableDefinition) (tableName : String) : Except EngineError Unit :=
  if table.columnsOk ∧ table.hasNoLoop ∧ table.optionsOk ∧ table.primaryKeys.length ≤ 1 ∧
      (table.columns.all fun column =>
        column.constraints.all (table.isColumnConstraint tableName column)) ∧
      table.constraints.all (table.isTableConstraint tableName) then .ok ()
  else .error (.badStatement "the table cannot be made")

end TableDefinition

end SqlStatement
