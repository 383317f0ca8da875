import SqlStatement.Proofs.Marker.Filling
import SqlStatement.Proofs.Query.Chain

/-!
# Adding to a numbered statement

A query whose statement is closed keeps the numbers of its markers when clauses are added to it:
nothing of the old text and the new one runs together across the blank between them, and numbering
goes on with the largest index of the old text (`number_build_append`).
-/

namespace SqlStatement

/-! ## Two texts -/

/-- Behind a closed text and a separator, numbering goes on with the largest index so far. -/
theorem number_append {s sep t : String} (hs : Closed s) (hsep : Separates sep)
    {numbered : Numbered} (h : number (s ++ sep ++ t) = .ok numbered) :
    ∃ first, number s = .ok first ∧
      numbered.text =
        first.text ++ sep ++ numberedFrom (largest (engineIndices [] (markers s))) t ∧
      numbered.changed = (first.changed || decide (.bare ∈ rawMarkers t)) := by
  have hmarkers := rawMarkers_append_separated hs hsep t
  obtain ⟨hlimit, rfl⟩ := (number_eq_ok_iff _ numbered).mp h
  have hle : highestAfter 0 (rawMarkers s) ≤ highestAfter 0 (rawMarkers (s ++ sep ++ t)) := by
    rw [hmarkers, highestAfter_append]
    exact le_highestAfter _ _
  refine ⟨_, (number_eq_ok_iff s _).mpr ⟨Nat.lt_of_le_of_lt hle hlimit, rfl⟩, ?_, ?_⟩
  · rw [markers_eq_map, largest_engineIndices]
    exact numberedFrom_append hs hsep 0 t
  · simp only [hmarkers, List.mem_append, Bool.decide_or]

/-- Without written markers in a text, its bare ones are counted on from the starting index. -/
theorem numberedFrom_counts_on (highest : Nat) {text : String}
    (hnone : ∀ index, .written index ∉ markers text) :
    ∃ ls ls', Splits text.toList ls ∧ numberedFrom highest text = Lexeme.joined ls' ∧
      ∀ i : Nat, ls'[i]? = ls[i]?.map fun l =>
        if l = .bare then .indexed (highest + (ls.take (i + 1)).count .bare) else l := by
  have hsplits : Splits text.toList (lexemes text.toList) := splits_iff.mpr rfl
  have hlargest : largest [highest] = highest := Nat.max_zero highest
  refine ⟨_, Lexeme.fill [highest] (lexemes text.toList), hsplits, ?_, fun i => ?_⟩
  · rw [← hsplits.numberedFrom_eq, hlargest]
  · rw [hsplits.markers_eq] at hnone
    rw [Lexeme.getElem?_fill hnone, hlargest]

/-! ## Clauses that are added to a query -/

/-- What clauses add to the statement of a query that has some. -/
theorem Query.build_foldl_append {q : Query} {more : List Clause} (hq : q.clauses ≠ [])
    (hmore : more ≠ []) :
    (more.foldl append q).build = q.build ++ " " ++ " ".intercalate (more.map Clause.text) := by
  rw [foldl_append, build, String.intercalate_append_of_ne_nil hq (by simpa using hmore)]
  rfl

/-- **Adding clauses renumbers nothing.** Let clauses be added to a query that has some and whose
statement is closed. If the new statement can be numbered, so can the old one, and the new one is
written as the old one is, followed by a blank and by what is written for the added text alone when
numbering starts with the largest index of the old statement. Without written markers in it, the
bare markers of the added text are counted on from that index. -/
theorem number_build_append {q : Query} {more : List Clause} (hq : q.clauses ≠ [])
    (hmore : more ≠ []) (hclosed : Closed q.build) {numbered : Numbered}
    (h : number (more.foldl Query.append q).build = .ok numbered) :
    let added := " ".intercalate (more.map Clause.text)
    let highest := largest (engineIndices [] (markers q.build))
    let written := (Numbering.startingFrom highest).run added.toList
    (more.foldl Query.append q).build = q.build ++ " " ++ added ∧
      (∃ first, number q.build = .ok first ∧
        numbered.text = first.text ++ " " ++ written.text ∧
        numbered.changed = (first.changed || written.changed)) ∧
      ((∀ index, .written index ∉ markers added) → ∃ ls ls',
        Splits added.toList ls ∧ written.text = Lexeme.joined ls' ∧
          ∀ i : Nat, ls'[i]? = ls[i]?.map fun l =>
            if l = .bare then .indexed (highest + (ls.take (i + 1)).count .bare) else l) := by
  intro added highest written
  have hbuild : (more.foldl Query.append q).build = q.build ++ " " ++ added :=
    Query.build_foldl_append hq hmore
  have hchanged : written.changed = decide (.bare ∈ rawMarkers added) :=
    ((Numbering.startingFrom highest).run_spec added.toList).2.2
  rw [hbuild] at h
  obtain ⟨first, hfirst, htext, hboth⟩ := number_append hclosed (by decide) h
  refine ⟨hbuild, ⟨first, hfirst, htext, ?_⟩, numberedFrom_counts_on highest⟩
  rw [hboth, hchanged]

/-- A closed statement with an index of 5, which ends with a lone sign. -/
def selectFifth : Query := ({} : Query).append (.select ["?5", "$"])

/-- A lone dash, bare markers and one in quotes. -/
def twoConditions : List Clause :=
  [.fromTable "t -", .filter "a = ? AND b = '?' OR c = ?" [.null, .integer 1]]

/-- The added markers go on behind the index of 5. -/
theorem number_build_append_selectFifth :
    selectFifth.clauses ≠ [] ∧ twoConditions ≠ [] ∧ Closed selectFifth.build ∧
      number (twoConditions.foldl Query.append selectFifth).build =
        .ok ⟨"SELECT ?5, $ FROM t - WHERE a = ?6 AND b = '?' OR c = ?7", true⟩ ∧
      ∃ first, number selectFifth.build = .ok first ∧
        "SELECT ?5, $ FROM t - WHERE a = ?6 AND b = '?' OR c = ?7" =
          first.text ++ " " ++ numberedFrom 5 "FROM t - WHERE a = ? AND b = '?' OR c = ?" := by
  have hq : selectFifth.clauses ≠ [] := by decide
  have hmore : twoConditions ≠ [] := by decide
  have hclosed : Closed selectFifth.build := by decide +kernel
  have hnumber : number (twoConditions.foldl Query.append selectFifth).build =
      .ok ⟨"SELECT ?5, $ FROM t - WHERE a = ?6 AND b = '?' OR c = ?7", true⟩ := by decide +kernel
  obtain ⟨-, ⟨first, hfirst, htext, -⟩, -⟩ := number_build_append hq hmore hclosed hnumber
  have hadded : " ".intercalate (twoConditions.map Clause.text) =
      "FROM t - WHERE a = ? AND b = '?' OR c = ?" := by decide +kernel
  have hhighest : largest (engineIndices [] (markers selectFifth.build)) = 5 := by decide +kernel
  rw [hadded, hhighest] at htext
  exact ⟨hq, hmore, hclosed, hnumber, first, hfirst, htext⟩

end SqlStatement
