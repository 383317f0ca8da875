import SqlStatement.Proofs.Json.Members
import SqlStatement.Row.Json

/-!
# The views of a row

A row whose columns share names is seen in four ways: `Row.get` finds the first cell of a name,
`Row.toJson` keeps the last one (`Row.last`), and `Row.cells` and `Row.written` keep them all, in
column order.

* `toJson_eq`: the object of a row holds the JSON forms of its last cells (`Row.lastCells`).
* `get_eq_getIndex`: the first cell is the one that a search for its position finds.
* `views_agree`: what each view has to do with the others, however often and wherever names repeat.
-/

namespace SqlStatement

def Json.get? (json : Json) (key : String) : Option Json :=
  match json with
  | .obj members => members.lookup key
  | _ => none

def Json.keys : Json → List String
  | .obj members => members.map Prod.fst
  | _ => []

namespace Row

def last (row : Row) (column : String) : Option Value := row.cells.reverse.lookup column

theorem get_eq_some_iff {row : Row} {column : String} {value : Value} :
    row.get column = some value ↔ ∃ before after,
      row.cells = before ++ (column, value) :: after ∧ column ∉ before.map Prod.fst :=
  lookup_eq_some_iff_append

theorem last_eq_some_iff {row : Row} {column : String} {value : Value} :
    row.last column = some value ↔ ∃ before after,
      row.cells = before ++ (column, value) :: after ∧ column ∉ after.map Prod.fst :=
  lookup_reverse_eq_some_iff

theorem get_eq_none_iff {row : Row} {column : String} :
    row.get column = none ↔ column ∉ row.columns :=
  lookup_eq_none_iff_keys

theorem last_eq_none_iff {row : Row} {column : String} :
    row.last column = none ↔ column ∉ row.columns := by
  rw [last, lookup_eq_none_iff_keys, List.map_reverse, List.mem_reverse]
  rfl

theorem isSome_last_iff {row : Row} {column : String} :
    (row.last column).isSome = true ↔ column ∈ row.columns := by
  rw [← not_iff_not, ← last_eq_none_iff]
  simp

/-- Where no name repeats, the last cell of a name is the first. -/
theorem last_eq_get {row : Row} (h : row.columns.Nodup) (column : String) :
    row.last column = row.get column := by
  refine Option.ext fun value => ?_
  simp only [last_eq_some_iff, get_eq_some_iff]
  refine exists_congr fun before => exists_congr fun after => and_congr_right fun hcells => ?_
  have hcolumns : row.columns = before.map Prod.fst ++ column :: after.map Prod.fst := by
    rw [columns, hcells]
    simp
  rw [hcolumns, List.nodup_append, List.nodup_cons] at h
  exact iff_of_true h.2.1.1 fun hbefore => h.2.2 _ hbefore _ List.mem_cons_self rfl

/-- The last cell of every name, in ascending order of the names. -/
def lastCells (row : Row) : Members Value := Members.ofList row.cells

theorem ascending_lastCells (row : Row) : Members.Ascending row.lastCells :=
  Members.ascending_ofList row.cells

theorem mem_lastCells_iff {row : Row} {column : String} {value : Value} :
    (column, value) ∈ row.lastCells ↔ row.last column = some value :=
  Members.mem_ofList_iff

/-- The object of the row holds the JSON forms of the last cells. -/
theorem toJson_eq (row : Row) :
    row.toJson = .obj (row.lastCells.map fun cell => (cell.1, cell.2.toJson)) :=
  congrArg Json.obj (Members.ofList_map_values Value.toJson row.cells)

theorem toJson_get? (row : Row) (column : String) :
    row.toJson.get? column = (row.last column).map Value.toJson := by
  rw [toJson_eq, Json.get?, lookup_map_values, lastCells, Members.lookup_ofList, last]

/-- The first cell of a name stands at the first position of this name. -/
theorem get_eq_getIndex (row : Row) (column : String) :
    row.get column = (row.columns.idxOf? column).bind row.getIndex := by
  obtain ⟨cells⟩ := row
  induction cells with
  | nil => rfl
  | cons cell cells ih =>
    obtain ⟨name, value⟩ := cell
    simp only [get, columns, List.map_cons, List.lookup_cons, List.idxOf?_cons] at ih ⊢
    by_cases h : name = column
    · subst h
      simp [getIndex, values]
    · have hcolumn : (column == name) = false := beq_false_of_ne (Ne.symm h)
      have hname : (name == column) = false := beq_false_of_ne h
      rw [hcolumn, hname, ih]
      cases (cells.map Prod.fst).idxOf? column <;> simp [getIndex, values]

theorem zip_columns_values (row : Row) : row.columns.zip row.values = row.cells := by
  simp [columns, values, List.zip_map']

theorem isSome_get_iff {row : Row} {column : String} :
    (row.get column).isSome = true ↔ column ∈ row.columns := by
  rw [← not_iff_not, ← get_eq_none_iff]
  simp

/-- **The views of a row agree.**
* `get` finds the first cell of a name, by its position among the columns, and the object of the row
  holds the JSON form of the last one; either view knows the names of the row and no others.
* So `get` and the object agree on a name exactly if its first and its last cell have the same JSON
  form, as in a row whose names differ.
* What is written are all cells in column order with their JSON forms, and the object of the row is
  what comes of these when a later one replaces an earlier one.
* The keys of the object ascend by their bytes, so each of them stands there once. -/
theorem views_agree (row : Row) :
    (∀ column value, row.get column = some value ↔ ∃ before after,
      row.cells = before ++ (column, value) :: after ∧ column ∉ before.map Prod.fst) ∧
    (∀ column, row.get column = (row.columns.idxOf? column).bind row.getIndex) ∧
    (∀ column value, row.last column = some value ↔ ∃ before after,
      row.cells = before ++ (column, value) :: after ∧ column ∉ after.map Prod.fst) ∧
    (∀ column, row.toJson.get? column = (row.last column).map Value.toJson) ∧
    (∀ column, (row.toJson.get? column).isSome = true ↔ (row.get column).isSome = true) ∧
    (∀ column first last, row.get column = some first → row.last column = some last →
      (row.toJson.get? column = some first.toJson ↔ first.toJson = last.toJson)) ∧
    (row.columns.Nodup → ∀ column, row.toJson.get? column = (row.get column).map Value.toJson) ∧
    (row.written = .obj row.members ∧ row.members.length = row.length ∧
      row.members = (row.columns.zip row.values).map fun cell => (cell.1, cell.2.toJson)) ∧
    (∀ object, row.toJson = .obj object ↔ row.members.Collected object) ∧
    row.toJson.keys.Pairwise fun a b => Text.bytes a < Text.bytes b := by
  refine ⟨fun _ _ => get_eq_some_iff, get_eq_getIndex row, fun _ _ => last_eq_some_iff,
    toJson_get? row, fun column => ?_, fun column first last hfirst hlast => ?_,
    fun hnodup column => ?_, ⟨rfl, ?_, ?_⟩, fun object => ?_, ?_⟩
  · rw [toJson_get?, Option.isSome_map, isSome_last_iff, isSome_get_iff]
  · rw [toJson_get?, hlast, Option.map_some, Option.some_inj, eq_comm]
  · rw [toJson_get?, last_eq_get hnodup]
  · exact List.length_map _
  · rw [zip_columns_values]
    rfl
  · rw [Members.collected_iff, toJson, Json.obj.injEq, eq_comm]
  · exact List.pairwise_map.mpr (Members.collected_ofList row.members).ascending

end Row

end SqlStatement
