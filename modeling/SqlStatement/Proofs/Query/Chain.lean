import SqlStatement.Proofs.Marker.Rules
import SqlStatement.Proofs.Query.Clause
import SqlStatement.Query.Basic

/-!
# Chains of clauses

Three rules number markers in a chain of clauses: a clause that inserts counts its values, one that
sets counts its fields, and the bare markers of conditions are left to `number`. They agree if the
chain is well-formed (`WellFormedChain`): at most one clause numbers markers of its own, no clause
before it binds anything, and every clause is well marked.

* `numbered_build`: what is written for the whole statement is what is written for each clause, when
  numbering starts with as many indices in use as there are values before the clause.
* `values_reach_markers`: every value of a well-formed chain reaches the marker written for it.
-/

namespace SqlStatement

/-- What a marker refers to, once it has its index. -/
def Marker.value (params : List Value) : Marker → Option Value
  | .written index => parameterAt params index
  | .bare => none

namespace Clause

/-- A chain that first takes clauses without markers, then at most one clause that numbers markers of
its own, then any others; all of them well marked. -/
def WellFormedChain (clauses : List Clause) : Prop :=
  ∃ (first : List Clause) (numbering : Option Clause) (last : List Clause),
    clauses = first ++ numbering.toList ++ last ∧
      (∀ clause ∈ clauses, clause.WellMarked) ∧
      (∀ clause ∈ first, clause.numbers = false ∧
        ∀ text ∈ clause.callerTexts, SqlStatement.markers text = []) ∧
      (∀ clause ∈ numbering, clause.numbers = true ∧ clause.FillsFields) ∧
      ∀ clause ∈ last, clause.numbers = false

/-- What is written for each clause of a chain; `bound` is the number of values before it. -/
def numberedTexts (bound : Nat) : List Clause → List String
  | [] => []
  | clause :: clauses =>
    numberedFrom bound clause.text :: numberedTexts (bound + clause.values.length) clauses

def allValues (clauses : List Clause) : List Value := clauses.flatMap values

/-! ## Clauses one after the other -/

/-- Every clause can be numbered with as many indices in use as there are values before it. -/
def Follow (bound : Nat) : List Clause → Prop
  | [] => True
  | clause :: clauses =>
    clause.WellMarked ∧ clause.FillsFields ∧ (clause.numbers = true → bound = 0) ∧
      Follow (bound + clause.values.length) clauses

theorem follow_append (bound : Nat) (front back : List Clause) :
    Follow bound (front ++ back) ↔
      Follow bound front ∧ Follow (bound + (allValues front).length) back := by
  induction front generalizing bound with
  | nil => simp [Follow, allValues]
  | cons clause front ih => simp [Follow, allValues, ih, Nat.add_assoc, and_assoc]

theorem fillsFields_of_not_numbers {clause : Clause} (h : clause.numbers = false) :
    clause.FillsFields := by
  cases clause with
  | set fields values => simp [numbers] at h
  | _ => trivial

theorem follow_of_not_numbers (bound : Nat) {clauses : List Clause}
    (h : ∀ clause ∈ clauses, clause.WellMarked ∧ clause.numbers = false) :
    Follow bound clauses := by
  induction clauses generalizing bound with
  | nil => trivial
  | cons clause clauses ih =>
    obtain ⟨hmarked, hnumbers⟩ := h clause (by simp)
    refine ⟨hmarked, fillsFields_of_not_numbers hnumbers, ?_, ih _ fun c hc => h c (by simp [hc])⟩
    simp [hnumbers]

/-- Without markers a clause binds nothing, unless it numbers markers of its own. -/
theorem WellMarked.values_eq_nil {clause : Clause} (h : clause.WellMarked)
    (hnumbers : clause.numbers = false)
    (hnone : ∀ text ∈ clause.callerTexts, SqlStatement.markers text = []) :
    clause.values = [] := by
  cases clause with
  | filter predicate values =>
    have hcount : (SqlStatement.markers predicate).count .bare = values.length :=
      h.bare predicate (by simp [callerTexts])
    rw [hnone predicate (by simp [callerTexts])] at hcount
    exact List.length_eq_zero_iff.mp hcount.symm
  | insertInto table fields values => simp [numbers] at hnumbers
  | set fields values => simp [numbers] at hnumbers
  | _ => rfl

theorem WellFormedChain.follow {clauses : List Clause} (h : WellFormedChain clauses) :
    Follow 0 clauses := by
  obtain ⟨first, numbering, last, rfl, hmarked, hfirst, hnumbering, hlast⟩ := h
  have hvalues : allValues first = [] := by
    apply List.flatMap_eq_nil_iff.mpr
    intro clause hc
    exact (hmarked clause (by simp [hc])).values_eq_nil (hfirst clause hc).1 (hfirst clause hc).2
  rw [List.append_assoc, follow_append, follow_append, hvalues]
  refine ⟨?_, ?_, ?_⟩
  · exact follow_of_not_numbers 0 fun c hc => ⟨hmarked c (by simp [hc]), (hfirst c hc).1⟩
  · cases numbering with
    | none => trivial
    | some clause =>
      exact ⟨hmarked clause (by simp), (hnumbering clause rfl).2, fun _ => rfl, trivial⟩
  · exact follow_of_not_numbers _ fun c hc => ⟨hmarked c (by simp [hc]), hlast c hc⟩

/-! ## Numbering a chain -/

theorem length_allValues_cons (clause : Clause) (clauses : List Clause) :
    (allValues (clause :: clauses)).length = clause.values.length + (allValues clauses).length := by
  simp [allValues]

theorem spans_chain {clauses : List Clause} (h : ∀ clause ∈ clauses, clause.WellMarked) :
    Spans (clauses.flatMap ownMarkers) (" ".intercalate (clauses.map text)) :=
  Spans.intercalate (by decide) clauses fun clause hc => text_spans (h clause hc)

namespace Follow

theorem wellMarked {bound : Nat} {clauses : List Clause} (h : Follow bound clauses) :
    ∀ clause ∈ clauses, clause.WellMarked := by
  induction clauses generalizing bound with
  | nil => simp
  | cons clause clauses ih =>
    obtain ⟨hmarked, -, -, hrest⟩ := h
    intro c hc
    rcases List.mem_cons.mp hc with rfl | hc
    · exact hmarked
    · exact ih hrest c hc

/-- The markers of the chain get the next indices, one for every value. -/
theorem indices_eq {bound : Nat} {clauses : List Clause} (h : Follow bound clauses)
    (hfew : bound + (allValues clauses).length < Marker.indexLimit) :
    indices bound (clauses.flatMap ownMarkers) =
        List.range' (bound + 1) (allValues clauses).length ∧
      highestAfter bound (clauses.flatMap ownMarkers) = bound + (allValues clauses).length := by
  induction clauses generalizing bound with
  | nil => simp [allValues, indices]
  | cons clause clauses ih =>
    obtain ⟨-, hfields, hbound, hrest⟩ := h
    rw [length_allValues_cons] at hfew ⊢
    obtain ⟨hown, hnext⟩ := indices_ownMarkers hfields hbound (by omega)
    obtain ⟨hindices, hhighest⟩ := ih hrest (by omega)
    rw [List.flatMap_cons, indices_append, highestAfter_append, hown, hnext, hindices, hhighest]
    constructor
    · rw [Nat.add_right_comm, List.range'_append_1]
    · omega

/-- Numbering the texts in turn starts each of them with the values before it. -/
theorem numberedAll_eq {bound : Nat} {clauses : List Clause} (h : Follow bound clauses)
    (hfew : bound + (allValues clauses).length < Marker.indexLimit) :
    numberedAll bound (clauses.map text) = numberedTexts bound clauses := by
  induction clauses generalizing bound with
  | nil => rfl
  | cons clause clauses ih =>
    obtain ⟨hmarked, hfields, hbound, hrest⟩ := h
    rw [length_allValues_cons] at hfew
    have hnext : highestAfter bound (rawMarkers clause.text) = bound + clause.values.length := by
      rw [← highestAfter_markers, (text_spans hmarked).markers_eq]
      exact (indices_ownMarkers hfields hbound (by omega)).2
    rw [List.map_cons, numberedAll, hnext, ih hrest (by omega), numberedTexts]

end Follow

/-- The markers of what `numberedFrom` writes for a clause refer to its values, in order. -/
theorem map_value_numberedFrom {clause : Clause} {before : List Value} (hmarked : clause.WellMarked)
    (hfields : clause.FillsFields) (hbound : clause.numbers = true → before.length = 0)
    (hfew : before.length + clause.values.length < Marker.indexLimit) (after : List Value) :
    (SqlStatement.markers (numberedFrom before.length clause.text)).map
        (Marker.value (before ++ clause.values ++ after)) = clause.values.map some := by
  rw [markers_numberedFrom, (text_spans hmarked).markers_eq,
    (indices_ownMarkers hfields hbound (by omega)).1, List.map_map]
  apply List.ext_getElem (by simp)
  intro j hj _
  have hlt : j < clause.values.length := by simpa using hj
  have hindex : before.length + 1 + j < Marker.indexLimit := by omega
  have hvalue : (before ++ clause.values ++ after)[before.length + j]? = some clause.values[j] := by
    rw [List.append_assoc, List.getElem?_append_right (by omega), Nat.add_sub_cancel_left,
      List.getElem?_append_left hlt, List.getElem?_eq_getElem hlt]
  have hsucc : before.length + 1 + j = before.length + j + 1 := by omega
  simp only [List.getElem_map, List.getElem_range', Function.comp_apply, Nat.one_mul]
  rw [Marker.ofIndex, if_pos hindex, Marker.value, hsucc, parameterAt, hvalue]

theorem numberedFrom_of_wellMarked {clause : Clause} (h : clause.WellMarked)
    (hfilter : ∀ predicate values, clause ≠ .filter predicate values) (highest : Nat) :
    numberedFrom highest clause.text = clause.text := by
  apply numberedFrom_of_not_bare
  rw [(text_spans h).markers_eq]
  cases clause with
  | filter predicate values => exact absurd rfl (hfilter predicate values)
  | _ => simp [ownMarkers, Marker.ofIndex]

theorem getElem?_numberedTexts (bound : Nat) (front : List Clause) (clause : Clause)
    (back : List Clause) :
    (numberedTexts bound (front ++ clause :: back))[front.length]? =
      some (numberedFrom (bound + (allValues front).length) clause.text) := by
  induction front generalizing bound with
  | nil => simp [numberedTexts, allValues]
  | cons first front ih =>
    rw [List.cons_append, numberedTexts, List.length_cons, List.getElem?_cons_succ, ih]
    simp [allValues, Nat.add_assoc]

end Clause

theorem Query.foldl_append (q : Query) (clauses : List Clause) :
    clauses.foldl Query.append q =
      { q with
        clauses := q.clauses ++ clauses.map Clause.text
        parameters := q.parameters ++ Clause.allValues clauses } := by
  induction clauses generalizing q with
  | nil => simp [Clause.allValues]
  | cons clause clauses ih => simp [ih, Query.append, Clause.allValues]

namespace Clause

/-- The statement of a well-formed chain is numbered clause by clause. -/
theorem number_build (config : QueryConfig) {clauses : List Clause} (h : WellFormedChain clauses)
    (hfew : (allValues clauses).length < Marker.indexLimit) :
    ∃ numbered, number (clauses.foldl Query.append (Query.withConfig config)).build = .ok numbered ∧
      numbered.text = " ".intercalate (numberedTexts 0 clauses) ∧
      SqlStatement.markers numbered.text =
        (List.range' 1 (allValues clauses).length).map Marker.written := by
  have hfollow : Follow 0 clauses := h.follow
  have hfew' : 0 + (allValues clauses).length < Marker.indexLimit := by omega
  obtain ⟨hindices, hhighest⟩ := hfollow.indices_eq hfew'
  have hspans := spans_chain hfollow.wellMarked
  have hbuild : (clauses.foldl Query.append (Query.withConfig config)).build =
      " ".intercalate (clauses.map text) := by
    rw [Query.foldl_append]
    rfl
  have hclosed : ∀ t ∈ clauses.map text, Closed t := by
    intro t ht
    obtain ⟨clause, hc, rfl⟩ := List.mem_map.mp ht
    exact (text_spans (hfollow.wellMarked clause hc)).closed
  have hlimit : highestAfter 0 (rawMarkers (" ".intercalate (clauses.map text))) <
      Marker.indexLimit := by
    rw [← highestAfter_markers, hspans.markers_eq, hhighest]
    exact hfew'
  rw [hbuild, number_eq, if_pos hlimit]
  refine ⟨_, rfl, ?_, ?_⟩
  · show numberedFrom 0 _ = _
    rw [numberedFrom_intercalate (by decide) 0 _ hclosed, hfollow.numberedAll_eq hfew']
  · show SqlStatement.markers (numberedFrom 0 _) = _
    rw [markers_numberedFrom, hspans.markers_eq, hindices]
    apply List.map_congr_left
    intro index hindex
    have hlt : index < Marker.indexLimit := by
      have := (List.mem_range'_1.mp hindex).2
      omega
    rw [Marker.ofIndex, if_pos hlt]

/-- **Every value reaches its marker.** The statement of a well-formed chain can be numbered, and
its markers are then `?1`, `?2` and so on, one for every parameter. Of what is written for a clause,
only the bare markers of a condition change, and the markers refer to the clause's own values, in
order. -/
theorem values_reach_markers (config : QueryConfig) {clauses : List Clause}
    (h : WellFormedChain clauses) (hfew : (allValues clauses).length < Marker.indexLimit) :
    let q := clauses.foldl Query.append (Query.withConfig config)
    q.parameters = allValues clauses ∧
      ∃ numbered, number q.build = .ok numbered ∧
        numbered.text = " ".intercalate (numberedTexts 0 clauses) ∧
        SqlStatement.markers numbered.text =
          (List.range' 1 q.parameters.length).map Marker.written ∧
        ∀ front clause back, clauses = front ++ clause :: back →
          let written := numberedFrom (allValues front).length clause.text
          (numberedTexts 0 clauses)[front.length]? = some written ∧
            (SqlStatement.markers written).map (Marker.value q.parameters) =
              clause.values.map some ∧
            ((∀ predicate values, clause ≠ .filter predicate values) → written = clause.text) := by
  intro q
  have hparameters : q.parameters = allValues clauses := by
    show (clauses.foldl Query.append (Query.withConfig config)).parameters = allValues clauses
    rw [Query.foldl_append]
    rfl
  obtain ⟨numbered, hnumber, htext, hmarkers⟩ := number_build config h hfew
  rw [hparameters]
  refine ⟨rfl, numbered, hnumber, htext, hmarkers, ?_⟩
  rintro front clause back rfl
  obtain ⟨-, hmarked, hfields, hbound, -⟩ := (follow_append 0 front (clause :: back)).mp h.follow
  have hvalues : allValues (front ++ clause :: back) =
      allValues front ++ clause.values ++ allValues back := by simp [allValues]
  rw [hvalues] at hfew ⊢
  simp only [List.length_append] at hfew
  rw [Nat.zero_add] at hbound
  refine ⟨?_, ?_, ?_⟩
  · rw [getElem?_numberedTexts, Nat.zero_add]
  · exact map_value_numberedFrom hmarked hfields hbound (by omega) _
  · exact fun hfilter => numberedFrom_of_wellMarked hmarked hfilter _

/-- Two fields and two conditions, with what looks like a marker in quotes and in a comment. -/
def updateUser : List Clause :=
  [.update "users", .set ["name", "\"a?b\""] [.text "Ann", .integer 7],
    .filter "age > ? /* ? */ AND note <> '?'" [.integer 18], .filter "id = ?" [.null]]

/-- The bare markers go on behind the fields. -/
theorem values_reach_markers_update :
    WellFormedChain updateUser ∧
      ∃ numbered,
        number (updateUser.foldl Query.append (Query.withConfig {})).build = .ok numbered ∧
          numbered.text = "UPDATE users SET name = ?1, \"a?b\" = ?2 " ++
            "WHERE age > ?3 /* ? */ AND note <> '?' WHERE id = ?4" ∧
          SqlStatement.markers numbered.text =
            [.written 1, .written 2, .written 3, .written 4] := by
  have hchain : WellFormedChain updateUser := by
    refine ⟨updateUser.take 1, updateUser[1]?, updateUser.drop 2, rfl, ?_, ?_, ?_, ?_⟩
    · decide +kernel
    · decide +kernel
    · rintro clause hclause
      obtain rfl := Option.some.inj hclause
      exact ⟨rfl, rfl⟩
    · decide +kernel
  obtain ⟨-, numbered, hnumber, htext, hmarkers, -⟩ :=
    values_reach_markers {} hchain (by decide +kernel)
  exact ⟨hchain, numbered, hnumber, htext.trans (by decide +kernel), hmarkers⟩

end Clause

end SqlStatement
