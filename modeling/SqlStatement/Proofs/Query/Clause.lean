import SqlStatement.Proofs.Marker.Numbering
import SqlStatement.Query.Clause

/-!
# Markers in clauses

A clause has the markers that it numbers itself and those that its caller wrote into it. Here
`Clause.WellMarked` says that the caller kept to the rules: every text is closed, no marker in it
has an index, and only a condition has bare markers, one for every value.

* `text_spans`: which markers a well marked clause has as a whole (`ownMarkers`).
* `indices_ownMarkers`: which indices they get.
-/

namespace SqlStatement.Clause

def callerTexts : Clause → List String
  | .select columns => columns
  | .fromTable table | .update table | .deleteFrom table => [table]
  | .filter predicate _ => [predicate]
  | .insertInto table fields _ => table :: fields
  | .set fields _ => fields
  | .join _ table condition => [table, condition]
  | .orderBy column _ => [column]
  | .limit _ | .offset _ => []

/-- The clause numbers markers of its own. -/
def numbers : Clause → Bool
  | .insertInto _ _ _ | .set _ _ => true
  | _ => false

/-- The number of values that the markers of the caller bind. -/
def boundByCaller : Clause → Nat
  | .filter _ values => values.length
  | _ => 0

/-- The caller's texts are fit to be joined and numbered: no marker has an index, and a condition
has one bare marker for every value, any other text none. -/
structure WellMarked (clause : Clause) : Prop where
  closed : ∀ text ∈ clause.callerTexts, Closed text
  unnumbered : ∀ text ∈ clause.callerTexts, ∀ m ∈ SqlStatement.markers text, m = .bare
  bare : ∀ text ∈ clause.callerTexts,
    (SqlStatement.markers text).count .bare = clause.boundByCaller

instance (clause : Clause) : Decidable clause.WellMarked :=
  decidable_of_iff
    ((∀ text ∈ clause.callerTexts, Closed text) ∧
      (∀ text ∈ clause.callerTexts, ∀ m ∈ SqlStatement.markers text, m = .bare) ∧
      ∀ text ∈ clause.callerTexts,
        (SqlStatement.markers text).count .bare = clause.boundByCaller)
    ⟨fun ⟨hclosed, hunnumbered, hbare⟩ => ⟨hclosed, hunnumbered, hbare⟩,
      fun ⟨hclosed, hunnumbered, hbare⟩ => ⟨hclosed, hunnumbered, hbare⟩⟩

def ownMarkers : Clause → List Marker
  | .filter _ values => List.replicate values.length .bare
  | .insertInto _ _ values => (List.range values.length).map fun i => .ofIndex (i + 1)
  | .set fields _ => (List.range fields.length).map fun i => .ofIndex (i + 1)
  | _ => []

theorem WellMarked.spans {clause : Clause} (h : clause.WellMarked) :
    ∀ text ∈ clause.callerTexts, Spans (List.replicate clause.boundByCaller .bare) text := by
  intro text htext
  have hall := h.unnumbered text htext
  refine ⟨h.closed text htext, List.eq_replicate_iff.mpr ⟨?_, hall⟩⟩
  rw [← h.bare text htext, List.count_eq_length.mpr fun m hm => (hall m hm).symm]

/-! ## The parts of a clause -/

theorem commaSeparated_spans {α : Type} {ms : α → List Marker} {part : α → String}
    (parts : List α) (h : ∀ a ∈ parts, Spans (ms a) (part a)) :
    Spans (parts.flatMap ms) (commaSeparated (parts.map part)) :=
  Spans.intercalate (by decide) parts h

theorem names_span {names : List String} (h : ∀ name ∈ names, Spans [] name) :
    Spans [] (commaSeparated names) := by
  have hspan : Spans (names.flatMap fun _ => []) (commaSeparated (names.map id)) :=
    commaSeparated_spans names h
  rwa [List.map_id, List.flatMap_eq_nil_iff.mpr (by simp)] at hspan

theorem markers_span (count : Nat) :
    Spans ((List.range count).map fun i => .ofIndex (i + 1)) (commaSeparated (markers count)) := by
  rw [List.map_eq_flatMap]
  exact commaSeparated_spans (List.range count) fun i _ => Spans.question_toString (i + 1)

theorem assignments_span {fields : List String} (h : ∀ field ∈ fields, Spans [] field) :
    Spans ((List.range fields.length).map fun i => .ofIndex (i + 1))
      (commaSeparated (assignments fields)) := by
  have hpairs : assignments fields =
      (fields.zip (List.range fields.length)).map fun pair =>
        pair.1 ++ " = " ++ marker (pair.2 + 1) := by
    simp [assignments, markers, List.zipWith_map_right, List.zip_eq_zipWith, List.map_zipWith]
  have hsnd : (fields.zip (List.range fields.length)).map Prod.snd = List.range fields.length :=
    List.map_snd_zip (by simp)
  have hindices : (List.range fields.length).map (fun i => Marker.ofIndex (i + 1)) =
      (fields.zip (List.range fields.length)).flatMap fun pair => [.ofIndex (pair.2 + 1)] :=
    calc
      _ = ((fields.zip (List.range fields.length)).map Prod.snd).map
          fun i => Marker.ofIndex (i + 1) := by rw [hsnd]
      _ = _ := by rw [List.map_map, ← List.map_eq_flatMap, Function.comp_def]
  rw [hpairs, hindices]
  apply commaSeparated_spans
  intro pair hpair
  have hfield := h pair.1 (List.of_mem_zip hpair).1
  exact hfield.append (Spans.question_toString (pair.2 + 1))

/-! ## The clause as a whole -/

theorem text_spans {clause : Clause} (h : clause.WellMarked) :
    Spans clause.ownMarkers clause.text := by
  have htexts := h.spans
  cases clause with
  | select columns => exact (names_span htexts).prepend
  | fromTable table => exact (htexts table (by simp [callerTexts])).prepend
  | filter predicate values => exact (htexts predicate (by simp [callerTexts])).prepend
  | insertInto table fields values =>
    have htable : Spans [] table := htexts table (by simp [callerTexts])
    have hfields : Spans [] (commaSeparated fields) :=
      names_span fun field hf => htexts field (by simp [callerTexts, hf])
    have hhead : Spans [] ("INSERT INTO " ++ table ++ " (" ++ commaSeparated fields) :=
      htable.prepend.append hfields
    exact (hhead.append (markers_span values.length)).concat
  | update table => exact (htexts table (by simp [callerTexts])).prepend
  | set fields values => exact (assignments_span htexts).prepend
  | deleteFrom table => exact (htexts table (by simp [callerTexts])).prepend
  | join kind table condition =>
    have htable : Spans [] table := htexts table (by simp [callerTexts])
    have hcondition : Spans [] condition := htexts condition (by simp [callerTexts])
    have hkind : Spans [] kind.keyword := by cases kind <;> exact ⟨by decide, by decide⟩
    exact (hkind.append htable).append hcondition
  | orderBy column direction =>
    have hcolumn : Spans [] column := htexts column (by simp [callerTexts])
    have hdirection : Spans [] direction.keyword := by
      cases direction <;> exact ⟨by decide, by decide⟩
    exact hcolumn.prepend.append hdirection
  | limit count => exact (Spans.toString_nat count.toNat).prepend
  | offset count => exact (Spans.toString_nat count.toNat).prepend

/-! ## Indices -/

theorem indices_replicate_bare (highest count : Nat) :
    indices highest (List.replicate count .bare) = List.range' (highest + 1) count ∧
      highestAfter highest (List.replicate count .bare) = highest + count := by
  induction count generalizing highest with
  | zero => simp [indices]
  | succ count ih =>
    obtain ⟨hindices, hhighest⟩ := ih (highest + 1)
    have hmax : max highest (highest + 1) = highest + 1 := by omega
    rw [List.replicate_succ, indices, highestAfter_cons, Marker.index, hmax, hindices, hhighest]
    constructor
    · rw [List.range'_succ]
    · omega

theorem indices_numbered (count : Nat) (hcount : count < Marker.indexLimit) :
    indices 0 ((List.range count).map fun i => .ofIndex (i + 1)) = List.range' 1 count ∧
      highestAfter 0 ((List.range count).map fun i => .ofIndex (i + 1)) = count := by
  induction count with
  | zero => simp [indices]
  | succ count ih =>
    obtain ⟨hindices, hhighest⟩ := ih (by omega)
    have hindex : ∀ highest, (Marker.ofIndex (count + 1)).index highest = count + 1 := by
      simp [Marker.ofIndex, Marker.index, hcount]
    rw [List.range_succ, List.map_append, indices_append, highestAfter_append, hindices, hhighest,
      List.range'_1_concat]
    simp [indices, hindex, Nat.add_comm 1]

/-- A clause that sets has a value for every field. -/
def FillsFields : Clause → Prop
  | .set fields values => fields.length = values.length
  | _ => True

/-- Where a clause stands first of those that bind values, or numbers nothing itself, its markers
get the next indices, one for every value. -/
theorem indices_ownMarkers {clause : Clause} {bound : Nat} (hfields : clause.FillsFields)
    (hbound : clause.numbers = true → bound = 0)
    (hlimit : clause.values.length < Marker.indexLimit) :
    indices bound clause.ownMarkers = List.range' (bound + 1) clause.values.length ∧
      highestAfter bound clause.ownMarkers = bound + clause.values.length := by
  cases clause with
  | filter predicate values => exact indices_replicate_bare bound values.length
  | insertInto table fields values =>
    rw [hbound rfl]
    simpa [ownMarkers, Clause.values] using indices_numbered values.length hlimit
  | set fields values =>
    rw [hbound rfl]
    have hlength : fields.length = values.length := hfields
    simpa [ownMarkers, Clause.values, hlength] using indices_numbered values.length hlimit
  | _ => simp [ownMarkers, Clause.values, indices]

end SqlStatement.Clause
