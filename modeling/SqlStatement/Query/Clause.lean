import SqlStatement.Value.Basic

/-!
# Clauses

A `Clause` is one part of a statement, with the values that it binds. `Clause.text` is how it is
written. A clause that inserts numbers one marker for every value, a clause that sets numbers one
marker for every field, and a condition has the markers that its caller wrote.
-/

namespace SqlStatement

/-- Kinds of joins. A plain join means what the engine takes it to mean. -/
inductive JoinKind where
  | plain
  | inner
  | left
  | right
  deriving DecidableEq, Repr

def JoinKind.keyword : JoinKind → String
  | .plain => "JOIN"
  | .inner => "INNER JOIN"
  | .left => "LEFT JOIN"
  | .right => "RIGHT JOIN"

inductive SortDirection where
  | ascending
  | descending
  deriving DecidableEq, Repr

def SortDirection.keyword : SortDirection → String
  | .ascending => "ASC"
  | .descending => "DESC"

inductive Clause where
  | select (columns : List String)
  | fromTable (table : String)
  | filter (predicate : String) (values : List Value)
  | insertInto (table : String) (fields : List String) (values : List Value)
  | update (table : String)
  | set (fields : List String) (values : List Value)
  | deleteFrom (table : String)
  | join (kind : JoinKind) (table condition : String)
  | orderBy (column : String) (direction : SortDirection)
  | limit (count : UInt64)
  | offset (count : UInt64)
  deriving DecidableEq

namespace Clause

def commaSeparated (parts : List String) : String := ", ".intercalate parts

def marker (index : Nat) : String := "?" ++ toString index

/-- The markers `?1`, `?2` and so on. -/
def markers (count : Nat) : List String := (List.range count).map fun i => marker (i + 1)

def assignments (fields : List String) : List String :=
  fields.zipWith (fun field mark => field ++ " = " ++ mark) (markers fields.length)

def text : Clause → String
  | .select columns => "SELECT " ++ commaSeparated columns
  | .fromTable table => "FROM " ++ table
  | .filter predicate _ => "WHERE " ++ predicate
  | .insertInto table fields values =>
    "INSERT INTO " ++ table ++ " (" ++ commaSeparated fields ++ ") VALUES ("
      ++ commaSeparated (markers values.length) ++ ")"
  | .update table => "UPDATE " ++ table
  | .set fields _ => "SET " ++ commaSeparated (assignments fields)
  | .deleteFrom table => "DELETE FROM " ++ table
  | .join kind table condition => kind.keyword ++ " " ++ table ++ " ON " ++ condition
  | .orderBy column direction => "ORDER BY " ++ column ++ " " ++ direction.keyword
  | .limit count => "LIMIT " ++ toString count.toNat
  | .offset count => "OFFSET " ++ toString count.toNat

/-- The values that the clause binds, in bind order. -/
def values : Clause → List Value
  | .filter _ values | .insertInto _ _ values | .set _ values => values
  | _ => []

end Clause

end SqlStatement
