import SqlStatement.Marker.Number
import SqlStatement.Proofs.Marker.Boundary

/-!
# What numbering writes

`number` is a fold that keeps a mode, the largest index and the text so far. Here it is taken apart:
`ScanMode.numbered` is the text that it writes, by recursion on what is read, and `highestAfter` the
largest index that a list of markers leads to (`number_eq`).

* `numbered_append_inert`: behind a closed text and an inert character, numbering goes on with the
  largest index so far, and nothing else of the first text matters.
* `rawMarkers_numbered`: read again, the written text has the same markers, and every bare one has
  become a written one with the index that it was given (`assign`).
* `numbered_eq_iff`: two starting indices write the same text exactly if they give the same indices.
-/

namespace SqlStatement

namespace Marker

/-- The index that a marker gets when indices up to `highest` are in use. -/
def index (highest : Nat) : Marker → Nat
  | .written value => if value < indexLimit then value else 0
  | .bare => highest + 1

/-- The marker as it is written when indices up to `highest` are in use. -/
def assigned (highest : Nat) : Marker → Marker
  | .written value => .written value
  | .bare => .written (highest + 1)

theorem index_inRange (highest : Nat) (m : Marker) : m.inRange.index highest = m.index highest := by
  cases m with
  | written value => by_cases h : value < indexLimit <;> simp [inRange, ofIndex, index, h]
  | bare => rfl

end Marker

/-- The largest index in use after these markers. -/
def highestAfter (highest : Nat) (ms : List Marker) : Nat :=
  ms.foldl (fun h m => max h (m.index h)) highest

def indices (highest : Nat) : List Marker → List Nat
  | [] => []
  | m :: ms => m.index highest :: indices (max highest (m.index highest)) ms

/-- These markers with an index for every bare one. -/
def assign (highest : Nat) : List Marker → List Marker
  | [] => []
  | m :: ms => m.assigned highest :: assign (max highest (m.index highest)) ms

@[simp] theorem highestAfter_nil (highest : Nat) : highestAfter highest [] = highest := rfl

@[simp] theorem highestAfter_cons (highest : Nat) (m : Marker) (ms : List Marker) :
    highestAfter highest (m :: ms) = highestAfter (max highest (m.index highest)) ms := rfl

theorem highestAfter_append (highest : Nat) (ms ns : List Marker) :
    highestAfter highest (ms ++ ns) = highestAfter (highestAfter highest ms) ns := by
  simp [highestAfter]

theorem highestAfter_inRange (highest : Nat) (ms : List Marker) :
    highestAfter highest (ms.map Marker.inRange) = highestAfter highest ms := by
  induction ms generalizing highest with
  | nil => rfl
  | cons m ms ih => simp [Marker.index_inRange, ih]

theorem indices_inRange (highest : Nat) (ms : List Marker) :
    indices highest (ms.map Marker.inRange) = indices highest ms := by
  induction ms generalizing highest with
  | nil => rfl
  | cons m ms ih => simp [indices, Marker.index_inRange, ih]

theorem indices_append (highest : Nat) (ms ns : List Marker) :
    indices highest (ms ++ ns) = indices highest ms ++ indices (highestAfter highest ms) ns := by
  induction ms generalizing highest with
  | nil => rfl
  | cons m ms ih => simp [indices, ih]

theorem assign_append (highest : Nat) (ms ns : List Marker) :
    assign highest (ms ++ ns) = assign highest ms ++ assign (highestAfter highest ms) ns := by
  induction ms generalizing highest with
  | nil => rfl
  | cons m ms ih => simp [assign, ih]

theorem map_inRange_assign (highest : Nat) (ms : List Marker) :
    (assign highest ms).map Marker.inRange = (indices highest ms).map Marker.ofIndex := by
  induction ms generalizing highest with
  | nil => rfl
  | cons m ms ih =>
    have hm : (m.assigned highest).inRange = .ofIndex (m.index highest) := by
      cases m with
      | written value =>
        by_cases h : value < Marker.indexLimit <;>
          simp [Marker.assigned, Marker.inRange, Marker.ofIndex, Marker.index, h]
      | bare => rfl
    simp [assign, indices, hm, ih]

/-- No bare marker is left. -/
theorem bare_not_mem_assign (highest : Nat) (ms : List Marker) : .bare ∉ assign highest ms := by
  induction ms generalizing highest with
  | nil => simp [assign]
  | cons m ms ih => cases m <;> simp [assign, Marker.assigned, ih]

theorem le_highestAfter (highest : Nat) (ms : List Marker) : highest ≤ highestAfter highest ms := by
  induction ms generalizing highest with
  | nil => exact Nat.le_refl _
  | cons m ms ih => exact Nat.le_trans (Nat.le_max_left _ _) (ih _)

theorem highestAfter_eq_max {ms : List Marker} (hms : .bare ∉ ms) (highest : Nat) :
    highestAfter highest ms = max highest (highestAfter 0 ms) := by
  induction ms generalizing highest with
  | nil => simp
  | cons m ms ih =>
    have hrest : .bare ∉ ms := fun h => hms (by simp [h])
    cases m with
    | bare => exact absurd (by simp) hms
    | written value =>
      simp only [highestAfter_cons, Marker.index]
      rw [ih hrest, ih hrest (max 0 _)]
      omega

def beforeBare (ms : List Marker) : List Marker := ms.takeWhile (· ≠ .bare)

theorem bare_not_mem_beforeBare (ms : List Marker) : .bare ∉ beforeBare ms := by
  intro h
  have hall := List.all_takeWhile (p := fun m : Marker => decide (m ≠ .bare)) (l := ms)
  simpa using List.all_eq_true.mp hall _ h

/-- Two starting indices lead to the same indices exactly if they do so up to the first bare
marker. -/
theorem assign_eq_iff (a b : Nat) (ms : List Marker) :
    assign a ms = assign b ms ↔
      (.bare ∈ ms → highestAfter a (beforeBare ms) = highestAfter b (beforeBare ms)) := by
  induction ms generalizing a b with
  | nil => simp [assign]
  | cons m ms ih =>
    cases m with
    | bare =>
      simp only [assign, Marker.assigned, Marker.index, beforeBare]
      constructor
      · intro h
        have hab : a = b := by simpa using (List.cons.inj h).1
        simp [hab]
      · intro h
        have hab : a = b := by simpa using h (by simp)
        rw [hab]
    | written value => simp [assign, Marker.assigned, Marker.index, beforeBare, ih]

/-- More indices in use at the start are at least as many at the end. -/
theorem highestAfter_mono {a b : Nat} (hab : a ≤ b) (ms : List Marker) :
    highestAfter a ms ≤ highestAfter b ms := by
  induction ms generalizing a b with
  | nil => exact hab
  | cons m ms ih =>
    apply ih
    cases m with
    | written value => simp only [Marker.index]; omega
    | bare => simp only [Marker.index]; omega

namespace ScanMode

/-- What is written behind the character just read: the index of a bare marker that ends there. -/
def label (mode : ScanMode) (highest : Nat) (following : Option Char) : List Char :=
  if mode.rawEnds following = some .bare then (toString (highest + 1)).toList else []

def numbered (mode : ScanMode) (highest : Nat) : List Char → List Char
  | [] => mode.label highest none
  | c :: rest =>
    mode.label highest (some c) ++
      c :: (mode.next c).numbered (highestAfter highest (mode.rawEnds (some c)).toList) rest

end ScanMode

namespace Numbering

/-- What settling a marker does to each part of the state. -/
theorem settle_spec (n : Numbering) (following : Option Char) :
    (n.settle following).mode = n.mode ∧
      (n.settle following).highest =
        highestAfter n.highest (n.mode.rawEnds following).toList ∧
      (n.settle following).text.toList =
        n.text.toList ++ n.mode.label n.highest following ∧
      (n.settle following).changed =
        (n.changed || decide (.bare ∈ n.mode.rawEnds following)) := by
  unfold settle ScanMode.label
  rw [ScanMode.ends_eq_map]
  cases h : n.mode.rawEnds following with
  | none => simp
  | some m =>
    cases m with
    | bare => simp [Marker.inRange, Marker.index]
    | written value => simp [Marker.inRange, Marker.ofIndex, Marker.index]

theorem run_cons (n : Numbering) (c : Char) (rest : List Char) :
    n.run (c :: rest) = (n.step c).run rest := rfl

/-- The state after a text, in terms of the markers in it. -/
theorem run_spec (n : Numbering) (text : List Char) :
    (n.run text).highest = highestAfter n.highest (n.mode.rawMarkers text) ∧
      (n.run text).text.toList = n.text.toList ++ n.mode.numbered n.highest text ∧
      (n.run text).changed = (n.changed || decide (.bare ∈ n.mode.rawMarkers text)) := by
  induction text generalizing n with
  | nil =>
    obtain ⟨-, hhighest, htext, hchanged⟩ := n.settle_spec none
    exact ⟨hhighest, htext, by simpa [run, ScanMode.rawMarkers] using hchanged⟩
  | cons c rest ih =>
    obtain ⟨-, hhighest, htext, hchanged⟩ := n.settle_spec (some c)
    obtain ⟨ih₁, ih₂, ih₃⟩ := ih (n.step c)
    rw [run_cons]
    refine ⟨?_, ?_, ?_⟩
    · rw [ih₁, ScanMode.rawMarkers, highestAfter_append]
      simp [step, hhighest]
    · rw [ih₂, ScanMode.numbered]
      simp [step, hhighest, htext]
    · rw [ih₃, ScanMode.rawMarkers]
      simp [step, hchanged, Bool.or_assoc]

end Numbering

/-- The text that is written when numbering starts with indices up to `highest` in use. -/
def numberedFrom (highest : Nat) (sql : String) : String :=
  ((Numbering.startingFrom highest).run sql.toList).text

theorem toList_numberedFrom (highest : Nat) (sql : String) :
    (numberedFrom highest sql).toList = ScanMode.plain.numbered highest sql.toList := by
  have h := ((Numbering.startingFrom highest).run_spec sql.toList).2.1
  simpa [numberedFrom, Numbering.startingFrom] using h

/-- `number` in terms of the markers: it fails exactly if the largest index is out of range. -/
theorem number_eq (sql : String) :
    number sql =
      if highestAfter 0 (rawMarkers sql) < Marker.indexLimit then
        .ok ⟨numberedFrom 0 sql, decide (.bare ∈ rawMarkers sql)⟩
      else .error .indexOverflow := by
  obtain ⟨hhighest, -, hchanged⟩ := (Numbering.startingFrom 0).run_spec sql.toList
  simp only [number, numberedFrom, hhighest, hchanged]
  rfl

theorem number_eq_ok_iff (sql : String) (numbered : Numbered) :
    number sql = .ok numbered ↔
      highestAfter 0 (rawMarkers sql) < Marker.indexLimit ∧
        numbered = ⟨numberedFrom 0 sql, decide (.bare ∈ rawMarkers sql)⟩ := by
  rw [number_eq]
  split
  · rename_i h
    simp [h, eq_comm]
  · rename_i h
    simp [h]

theorem map_text_number {sql : String} (h : highestAfter 0 (rawMarkers sql) < Marker.indexLimit) :
    (number sql).map Numbered.text = .ok (numberedFrom 0 sql) := by
  rw [number_eq, if_pos h]
  rfl

/-! ## Two texts -/

namespace ScanMode

/-- What is written for a text that goes on: a marker at its very end is not settled. -/
def numberedWithin (mode : ScanMode) (highest : Nat) : List Char → List Char
  | [] => []
  | c :: rest =>
    mode.label highest (some c) ++
      c :: (mode.next c).numberedWithin (highestAfter highest (mode.rawEnds (some c)).toList) rest

theorem numbered_append (mode : ScanMode) (highest : Nat) (s t : List Char) :
    mode.numbered highest (s ++ t) =
      mode.numberedWithin highest s ++
        (mode.after s).numbered (highestAfter highest (mode.passed s)) t := by
  induction s generalizing mode highest with
  | nil => rfl
  | cons c rest ih => simp [numbered, numberedWithin, passed, highestAfter_append, ih]

theorem numbered_eq_within (mode : ScanMode) (highest : Nat) (s : List Char) :
    mode.numbered highest s =
      mode.numberedWithin highest s ++
        (mode.after s).label (highestAfter highest (mode.passed s)) none := by
  simpa [numbered] using mode.numbered_append highest s []

/-- Across an inert character behind a closed text, only the largest index so far is carried. -/
theorem numbered_append_inert {mode : ScanMode} {s t : List Char}
    (hs : (mode.after s).isOutside = true) (ht : StartsInert t) (highest : Nat) :
    mode.numbered highest (s ++ t) =
      mode.numbered highest s ++
        ScanMode.plain.numbered (highestAfter highest (mode.rawMarkers s)) t := by
  rw [numbered_append, numbered_eq_within mode highest s, rawMarkers_eq_passed, highestAfter_append,
    List.append_assoc]
  congr 1
  cases t with
  | nil => simp [numbered, label]
  | cons c rest =>
    have hc : inert c = true := ht c rfl
    have hplain : ScanMode.plain.isOutside = true := rfl
    simp [numbered, label, rawEnds_inert _ hc, next_inert hs hc, next_inert hplain hc]

/-- The same behind a text that leaves nothing under way. -/
theorem numbered_append_plain {mode : ScanMode} {s : List Char} (hs : mode.after s = .plain)
    (highest : Nat) (t : List Char) :
    mode.numbered highest (s ++ t) =
      mode.numbered highest s ++
        ScanMode.plain.numbered (highestAfter highest (mode.rawMarkers s)) t := by
  simp [numbered_append, numbered_eq_within mode highest s, rawMarkers_eq_passed mode s, hs, label]

/-! ## Reading what was written -/

/-- An index that is written behind a bare marker makes it a marker with that index; the mode after
the next character is the same, since that is no digit. -/
theorem rawEnds_label {following : Option Char}
    (hf : following.any Char.isDigit = false) (index : Nat) :
    (ScanMode.index index).rawEnds following = some (.written index) ∧
      ∀ c, following = some c → (ScanMode.index index).next c = ScanMode.question.next c := by
  constructor
  · simp [rawEnds, hf]
  · rintro c rfl
    have hc : c.isDigit = false := by simpa using hf
    simp [next, hc]

/-- **Reading again.** The written text has the markers of the text, every bare one with the index
that it was given. -/
theorem rawMarkers_numbered (mode : ScanMode) (highest : Nat) (text : List Char) :
    mode.rawMarkers (mode.numbered highest text) = assign highest (mode.rawMarkers text) := by
  induction text generalizing mode highest with
  | nil =>
    rw [numbered, rawMarkers, label]
    split
    · rename_i h
      obtain ⟨rfl, hf⟩ := (rawEnds_eq_bare_iff mode none).mp h
      obtain ⟨hafter, hpassed⟩ := after_question_repr (highest + 1)
      rw [rawMarkers_eq_passed, hafter, hpassed, h]
      simp [rawEnds, assign, Marker.assigned]
    · rename_i h
      cases hm : mode.rawEnds none with
      | none => simp [rawMarkers, hm, assign]
      | some m =>
        cases m with
        | bare => exact absurd hm h
        | written value => simp [rawMarkers, hm, assign, Marker.assigned]
  | cons c rest ih =>
    rw [numbered, rawMarkers, assign_append, label]
    split
    · rename_i h
      obtain ⟨rfl, hf⟩ := (rawEnds_eq_bare_iff mode (some c)).mp h
      obtain ⟨hafter, hpassed⟩ := after_question_repr (highest + 1)
      obtain ⟨hends, hnext⟩ := rawEnds_label hf (highest + 1)
      rw [rawMarkers_append, hafter, hpassed, rawMarkers, hends, hnext c rfl, ih, h]
      simp [assign, Marker.assigned]
    · rename_i h
      rw [List.nil_append, rawMarkers, ih]
      congr 1
      cases hm : mode.rawEnds (some c) with
      | none => rfl
      | some m =>
        cases m with
        | bare => exact absurd hm h
        | written value => rfl

/-- Without a bare marker the text stays as it is. -/
theorem numbered_of_not_bare (mode : ScanMode) (highest : Nat) (text : List Char)
    (h : .bare ∉ mode.rawMarkers text) : mode.numbered highest text = text := by
  induction text generalizing mode highest with
  | nil =>
    have hends : mode.rawEnds none ≠ some .bare := by simpa [rawMarkers, eq_comm] using h
    simp [numbered, label, hends]
  | cons c rest ih =>
    simp only [rawMarkers, List.mem_append, not_or] at h
    have hends : mode.rawEnds (some c) ≠ some .bare := by simpa [eq_comm] using h.1
    simp [numbered, label, hends, ih _ _ h.2]

/-- Indices are all that the starting index decides about. -/
theorem numbered_eq_iff (mode : ScanMode) (a b : Nat) (text : List Char) :
    mode.numbered a text = mode.numbered b text ↔
      assign a (mode.rawMarkers text) = assign b (mode.rawMarkers text) := by
  constructor
  · intro h
    rw [← rawMarkers_numbered, ← rawMarkers_numbered, h]
  · intro h
    induction text generalizing mode a b with
    | nil =>
      simp only [numbered, label]
      split
      · rename_i hm
        rw [rawMarkers, hm] at h
        have hab : a = b := by simpa [assign, Marker.assigned] using h
        rw [hab]
      · rfl
    | cons c rest ih =>
      simp only [rawMarkers, numbered, label] at h ⊢
      cases hm : mode.rawEnds (some c) with
      | none =>
        rw [hm] at h
        simpa using ih _ _ _ (by simpa using h)
      | some m =>
        rw [hm] at h
        simp only [Option.toList_some, List.singleton_append, assign, List.cons.injEq] at h
        cases m with
        | bare =>
          have hab : a = b := by simpa [Marker.assigned] using h.1
          rw [hab]
        | written value => simpa using ih _ _ _ h.2

end ScanMode

theorem numberedFrom_eq_iff (a b : Nat) (sql : String) :
    numberedFrom a sql = numberedFrom b sql ↔
      assign a (rawMarkers sql) = assign b (rawMarkers sql) := by
  rw [← String.toList_inj, toList_numberedFrom, toList_numberedFrom, ScanMode.numbered_eq_iff,
    rawMarkers]

theorem rawMarkers_numberedFrom (highest : Nat) (sql : String) :
    rawMarkers (numberedFrom highest sql) = assign highest (rawMarkers sql) := by
  rw [rawMarkers, toList_numberedFrom, ScanMode.rawMarkers_numbered, rawMarkers]

theorem highestAfter_markers (highest : Nat) (sql : String) :
    highestAfter highest (markers sql) = highestAfter highest (rawMarkers sql) := by
  rw [markers_eq_map, highestAfter_inRange]

/-- The markers of the written text, an index out of range counting as 0. -/
theorem markers_numberedFrom (highest : Nat) (sql : String) :
    markers (numberedFrom highest sql) = (indices highest (markers sql)).map Marker.ofIndex := by
  rw [markers_eq_map, markers_eq_map, rawMarkers_numberedFrom, indices_inRange, map_inRange_assign]

/-- Without a bare marker the statement stays as it is. -/
theorem numberedFrom_of_not_bare (highest : Nat) {sql : String} (h : .bare ∉ markers sql) :
    numberedFrom highest sql = sql := by
  have hraw : .bare ∉ rawMarkers sql := by
    intro hbare
    rw [markers_eq_map] at h
    exact h (List.mem_map.mpr ⟨.bare, hbare, rfl⟩)
  apply String.toList_inj.mp
  rw [toList_numberedFrom, ScanMode.numbered_of_not_bare _ highest _ hraw]

/-- Behind a closed text and a separator, numbering goes on with the largest index so far. -/
theorem numberedFrom_append {s sep : String} (hs : Closed s) (hsep : Separates sep)
    (highest : Nat) (t : String) :
    numberedFrom highest (s ++ sep ++ t) =
      numberedFrom highest s ++ sep ++ numberedFrom (highestAfter highest (rawMarkers s)) t := by
  obtain ⟨hafter, hnone⟩ := hsep.after_plain
  have hself : ∀ h, ScanMode.plain.numbered h sep.toList = sep.toList := fun h =>
    ScanMode.numbered_of_not_bare _ h _ (by simp [hnone])
  apply String.toList_inj.mp
  simp only [toList_numberedFrom, String.toList_append, List.append_assoc]
  rw [ScanMode.numbered_append_inert hs (hsep.startsInert t.toList),
    ScanMode.numbered_append_plain hafter, hself, hnone]
  rfl

/-- Texts that are numbered one after the other. -/
def numberedAll (highest : Nat) : List String → List String
  | [] => []
  | text :: texts =>
    numberedFrom highest text :: numberedAll (highestAfter highest (rawMarkers text)) texts

theorem numberedFrom_intercalate {sep : String} (hsep : Separates sep) (highest : Nat)
    (texts : List String) (h : ∀ text ∈ texts, Closed text) :
    numberedFrom highest (sep.intercalate texts) =
      sep.intercalate (numberedAll highest texts) := by
  induction texts generalizing highest with
  | nil => simp [numberedAll, numberedFrom, Numbering.run, Numbering.startingFrom, Numbering.settle,
      ScanMode.ends]
  | cons text texts ih =>
    have htext : Closed text := h text (by simp)
    cases texts with
    | nil => simp [numberedAll]
    | cons next texts =>
      have hne : ∀ highest, numberedAll highest (next :: texts) ≠ [] := by simp [numberedAll]
      show _ = sep.intercalate (numberedFrom highest text :: numberedAll _ (next :: texts))
      rw [String.intercalate_cons_of_ne_nil (by simp), numberedFrom_append htext hsep,
        ih _ (fun t ht => h t (by simp [ht])), String.intercalate_cons_of_ne_nil (hne _)]

end SqlStatement
