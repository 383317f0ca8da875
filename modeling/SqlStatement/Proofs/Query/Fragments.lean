import Mathlib.Data.List.Basic
import SqlStatement.Query.Clause

/-!
# What each clause gives

Adding a clause to a query gives the statement one fragment and the parameters some values.
`Clause.Gives` writes both out for each kind of clause, and `Clause.gives_iff` says that these are
its text and its values.
-/

namespace SqlStatement

namespace Clause

/-- The fragment that a clause is written as, and the values that it binds. -/
inductive Gives : Clause → String → List Value → Prop where
  | select (columns) : Gives (.select columns) ("SELECT " ++ ", ".intercalate columns) []
  | fromTable (table) : Gives (.fromTable table) ("FROM " ++ table) []
  | filter (predicate values) : Gives (.filter predicate values) ("WHERE " ++ predicate) values
  | insertInto (table fields values) : Gives (.insertInto table fields values)
      ("INSERT INTO " ++ table ++ " (" ++ ", ".intercalate fields ++ ") VALUES (" ++
        ", ".intercalate (values.mapIdx fun i _ => "?" ++ toString (i + 1)) ++ ")") values
  | update (table) : Gives (.update table) ("UPDATE " ++ table) []
  | set (fields values) : Gives (.set fields values)
      ("SET " ++
        ", ".intercalate (fields.mapIdx fun i field => field ++ " = ?" ++ toString (i + 1))) values
  | deleteFrom (table) : Gives (.deleteFrom table) ("DELETE FROM " ++ table) []
  | plainJoin (table condition) : Gives (.join .plain table condition)
      ("JOIN " ++ table ++ " ON " ++ condition) []
  | innerJoin (table condition) : Gives (.join .inner table condition)
      ("INNER JOIN " ++ table ++ " ON " ++ condition) []
  | leftJoin (table condition) : Gives (.join .left table condition)
      ("LEFT JOIN " ++ table ++ " ON " ++ condition) []
  | rightJoin (table condition) : Gives (.join .right table condition)
      ("RIGHT JOIN " ++ table ++ " ON " ++ condition) []
  | ascending (column) : Gives (.orderBy column .ascending) ("ORDER BY " ++ column ++ " ASC") []
  | descending (column) : Gives (.orderBy column .descending) ("ORDER BY " ++ column ++ " DESC") []
  | limit (count : UInt64) : Gives (.limit count) ("LIMIT " ++ toString count.toNat) []
  | offset (count : UInt64) : Gives (.offset count) ("OFFSET " ++ toString count.toNat) []

theorem markers_length_eq {α : Type} (items : List α) :
    markers items.length = items.mapIdx fun i _ => "?" ++ toString (i + 1) := by
  refine List.ext_getElem (by simp [markers]) fun i _ _ => ?_
  simp [markers, marker]

theorem assignments_eq (fields : List String) :
    assignments fields = fields.mapIdx fun i field => field ++ " = ?" ++ toString (i + 1) := by
  refine List.ext_getElem (by simp [assignments, markers]) fun i _ _ => ?_
  have hsign (index : String) : " = " ++ ("?" ++ index) = " = ?" ++ index :=
    String.append_assoc.symm
  simp [assignments, markers, marker, hsign, String.append_assoc]

theorem gives (clause : Clause) : clause.Gives clause.text clause.values := by
  cases clause with
  | select columns => exact .select columns
  | fromTable table => exact .fromTable table
  | filter predicate values => exact .filter predicate values
  | insertInto table fields values =>
    have h := Gives.insertInto table fields values
    rw [← markers_length_eq] at h
    exact h
  | update table => exact .update table
  | set fields values =>
    have h := Gives.set fields values
    rw [← assignments_eq] at h
    exact h
  | deleteFrom table => exact .deleteFrom table
  | join kind table condition =>
    cases kind with
    | plain => exact .plainJoin table condition
    | inner => exact .innerJoin table condition
    | left => exact .leftJoin table condition
    | right => exact .rightJoin table condition
  | orderBy column direction =>
    cases direction with
    | ascending =>
      have htext : (orderBy column .ascending).text = "ORDER BY " ++ column ++ " ASC" :=
        String.append_assoc
      exact htext ▸ .ascending column
    | descending =>
      have htext : (orderBy column .descending).text = "ORDER BY " ++ column ++ " DESC" :=
        String.append_assoc
      exact htext ▸ .descending column
  | limit count => exact .limit count
  | offset count => exact .offset count

/-- A clause gives one fragment and one list of values. -/
theorem Gives.unique {clause : Clause} {text text' : String} {values values' : List Value}
    (h : clause.Gives text values) (h' : clause.Gives text' values') :
    text = text' ∧ values = values' := by
  cases h <;> cases h' <;> exact ⟨rfl, rfl⟩

theorem gives_iff {clause : Clause} {text : String} {values : List Value} :
    clause.Gives text values ↔ clause.text = text ∧ clause.values = values := by
  constructor
  · intro h
    exact clause.gives.unique h
  · rintro ⟨rfl, rfl⟩
    exact clause.gives

end Clause

end SqlStatement
