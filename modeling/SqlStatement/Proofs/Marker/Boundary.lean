import SqlStatement.Marker.Scan

/-!
# The scanner where two texts meet

A statement is put together from texts, and the scanner reads it as a whole. This module says when
that comes to the same as reading the parts.

* `ScanMode.rawMarkers` lists the markers with their indices as they are written; `ScanMode.markers`
  is that list with the indices out of range counted as 0 (`markers_eq_map`).
* `rawMarkers_append`: the markers of `s ++ t` are those that end inside `s`, then those of `t` read
  in the mode that `s` leads to.
* A separator of inert characters ends whatever is under way, so nothing runs together across it:
  `Spans.append` for two texts, `Spans.intercalate` for any number.
-/

namespace SqlStatement

/-! ## Digits -/

theorem isDigit_of_mem_toDigits {n : Nat} {d : Char} (hd : d ∈ Nat.toDigits 10 n) :
    d.isDigit = true := Nat.isDigit_of_mem_toDigits (by decide) (by decide) hd

theorem ne_of_isDigit {c d : Char} (hc : c.isDigit = true) (hd : d.isDigit = false) : c ≠ d := by
  rintro rfl
  simp [hc] at hd

/-! ## Indices as they are written -/

/-- An index out of range counts as 0. -/
def Marker.inRange : Marker → Marker
  | .written value => .ofIndex value
  | .bare => .bare

namespace ScanMode

/-- The marker that ends where this character, or the end of the text, follows, with its index as it
is written. -/
def rawEnds (mode : ScanMode) (following : Option Char) : Option Marker :=
  if following.any Char.isDigit then none
  else
    match mode with
    | .question => some .bare
    | .index value => some (.written value)
    | _ => none

/-- The markers that end in a text, with their indices as they are written. -/
def rawMarkers (mode : ScanMode) : List Char → List Marker
  | [] => (mode.rawEnds none).toList
  | c :: rest => (mode.rawEnds (some c)).toList ++ (mode.next c).rawMarkers rest

theorem ends_eq_map (mode : ScanMode) (following : Option Char) :
    mode.ends following = (mode.rawEnds following).map Marker.inRange := by
  unfold ends rawEnds
  split
  · rfl
  · cases mode <;> rfl

theorem markers_eq_map (mode : ScanMode) (text : List Char) :
    mode.markers text = (mode.rawMarkers text).map Marker.inRange := by
  induction text generalizing mode with
  | nil => simp [markers, rawMarkers, ends_eq_map, Option.toList_map]
  | cons c rest ih => simp [markers, rawMarkers, ends_eq_map, Option.toList_map, ih]

theorem rawEnds_of_digit (mode : ScanMode) {c : Char} (hc : c.isDigit = true) :
    mode.rawEnds (some c) = none := by
  simp [rawEnds, hc]

theorem rawEnds_of_not_digit (mode : ScanMode) {c : Char} (hc : c.isDigit = false) :
    mode.rawEnds (some c) = mode.rawEnds none := by
  simp [rawEnds, hc]

@[simp] theorem rawEnds_plain (following : Option Char) :
    ScanMode.plain.rawEnds following = none := by
  simp [rawEnds]

/-- A bare marker is a `?` that no digit follows. -/
theorem rawEnds_eq_bare_iff (mode : ScanMode) (following : Option Char) :
    mode.rawEnds following = some .bare ↔
      mode = .question ∧ following.any Char.isDigit = false := by
  unfold rawEnds
  cases following.any Char.isDigit <;> cases mode <;> simp

/-! ## Two texts -/

/-- The markers that end before the last character of a text does: one at the very end may still
go on. -/
def passed (mode : ScanMode) : List Char → List Marker
  | [] => []
  | c :: rest => (mode.rawEnds (some c)).toList ++ (mode.next c).passed rest

theorem passed_append (mode : ScanMode) (s t : List Char) :
    mode.passed (s ++ t) = mode.passed s ++ (mode.after s).passed t := by
  induction s generalizing mode with
  | nil => rfl
  | cons c rest ih => simp [passed, after, ih (mode.next c)]

theorem rawMarkers_append (mode : ScanMode) (s t : List Char) :
    mode.rawMarkers (s ++ t) = mode.passed s ++ (mode.after s).rawMarkers t := by
  induction s generalizing mode with
  | nil => rfl
  | cons c rest ih => simp [rawMarkers, passed, after, ih (mode.next c)]

theorem rawMarkers_eq_passed (mode : ScanMode) (s : List Char) :
    mode.rawMarkers s = mode.passed s ++ ((mode.after s).rawEnds none).toList := by
  simpa [rawMarkers] using rawMarkers_append mode s []

@[simp] theorem after_nil (mode : ScanMode) : mode.after [] = mode := rfl

@[simp] theorem after_cons (mode : ScanMode) (c : Char) (rest : List Char) :
    mode.after (c :: rest) = (mode.next c).after rest := rfl

/-! ## Reading digits -/

/-- A digit ends nothing and begins nothing. -/
theorem start_of_digit {c : Char} (hc : c.isDigit = true) : start c = .plain := by
  have hne : ∀ d : Char, d.isDigit = false → c ≠ d := fun d hd => ne_of_isDigit hc hd
  simp [start, hne '\'' rfl, hne '"' rfl, hne '\x60' rfl, hne '[' rfl, hne '-' rfl, hne '/' rfl,
    hne '?' rfl, hne '$' rfl]

theorem after_index_digits (value : Nat) (ds : List Char) (hd : ∀ d ∈ ds, d.isDigit = true) :
    (ScanMode.index value).after ds = .index (Nat.ofDigitChars 10 ds value) ∧
      (ScanMode.index value).passed ds = [] := by
  induction ds generalizing value with
  | nil => simp [passed]
  | cons d ds ih =>
    have hdigit : d.isDigit = true := hd d (by simp)
    have hrest := ih (10 * value + digitValue d) (fun e he => hd e (by simp [he]))
    simpa [passed, next, hdigit, rawEnds_of_digit, Nat.ofDigitChars_cons, digitValue] using hrest

/-- The sign of a marker and digits make the marker with their value as its index. -/
theorem after_sign_digits {mode : ScanMode} (hmode : mode = .question ∨ mode = .dollar)
    {ds : List Char} (hne : ds ≠ []) (hd : ∀ d ∈ ds, d.isDigit = true) :
    mode.after ds = .index (Nat.ofDigitChars 10 ds 0) ∧ mode.passed ds = [] := by
  obtain ⟨d, ds, rfl⟩ := List.exists_cons_of_ne_nil hne
  have hdigit : d.isDigit = true := hd d (by simp)
  obtain ⟨hafter, hpassed⟩ :=
    after_index_digits (digitValue d) ds (fun e he => hd e (by simp [he]))
  have hnext : mode.next d = .index (digitValue d) := by
    rcases hmode with rfl | rfl <;> simp [next, hdigit]
  rw [after_cons, passed, hnext, hafter, hpassed, rawEnds_of_digit mode hdigit,
    Nat.ofDigitChars_cons, Nat.mul_zero, Nat.zero_add, digitValue]
  exact ⟨rfl, rfl⟩

/-- The sign of a marker and the digits of a number make the marker with that index. -/
theorem after_question_repr (index : Nat) :
    ScanMode.question.after (toString index).toList = .index index ∧
      ScanMode.question.passed (toString index).toList = [] := by
  have hvalue : Nat.ofDigitChars 10 (Nat.toDigits 10 index) 0 = index := by simp
  have hread := after_sign_digits (.inl rfl) (Nat.toDigits_ne_nil (b := 10) (n := index))
    (fun _ => isDigit_of_mem_toDigits)
  rwa [hvalue, ← Nat.toList_repr, ← Nat.toString_eq_repr] at hread

/-! ## Inert characters -/

/-- A character that begins nothing, and that nothing under way can go on with. -/
def inert (c : Char) : Bool := decide (start c = .plain) && !c.isDigit && c != '*'

theorem inert_iff (c : Char) :
    inert c = true ↔ start c = .plain ∧ c.isDigit = false ∧ c ≠ '*' := by
  simp [inert, and_assoc]

/-- Outside quotes and comments, an inert character ends what is under way. -/
theorem next_inert {mode : ScanMode} (hmode : mode.isOutside = true) {c : Char}
    (hc : inert c = true) : mode.next c = .plain := by
  obtain ⟨hstart, hdigit, hstar⟩ := (inert_iff c).mp hc
  have hdash : c ≠ '-' := by
    rintro rfl
    simp [start] at hstart
  cases mode <;> simp_all [next, isOutside]

theorem rawEnds_inert (mode : ScanMode) {c : Char} (hc : inert c = true) :
    mode.rawEnds (some c) = mode.rawEnds none :=
  mode.rawEnds_of_not_digit ((inert_iff c).mp hc).2.1

/-- What follows a text is empty or starts with an inert character. -/
def StartsInert (text : List Char) : Prop := ∀ c ∈ text.head?, inert c = true

theorem startsInert_nil : StartsInert [] := by
  intro c hc
  simp at hc

theorem startsInert_cons {c : Char} (hc : inert c = true) (rest : List Char) :
    StartsInert (c :: rest) := by
  intro d hd
  simpa [← Option.mem_some_iff.mp hd] using hc

/-- The first text is closed and the second starts inert: each is read on its own. -/
theorem rawMarkers_append_inert {mode : ScanMode} {s t : List Char}
    (hs : (mode.after s).isOutside = true) (ht : StartsInert t) :
    mode.rawMarkers (s ++ t) = mode.rawMarkers s ++ ScanMode.plain.rawMarkers t := by
  rw [rawMarkers_append, rawMarkers_eq_passed mode s, List.append_assoc]
  congr 1
  cases t with
  | nil => simp [rawMarkers]
  | cons c rest =>
    have hc : inert c = true := ht c rfl
    have hplain : ScanMode.plain.isOutside = true := rfl
    simp [rawMarkers, rawEnds_inert _ hc, next_inert hs hc, next_inert hplain hc]

theorem isOutside_after_inert {mode : ScanMode} (hmode : mode.isOutside = true) {t : List Char}
    (ht : StartsInert t) : (mode.after t).isOutside = (ScanMode.plain.after t).isOutside := by
  cases t with
  | nil => exact hmode
  | cons c rest =>
    have hc : inert c = true := ht c rfl
    have hplain : ScanMode.plain.isOutside = true := rfl
    rw [after_cons, after_cons, next_inert hmode hc, next_inert hplain hc]

/-- The first text leaves nothing under way: each is read on its own. -/
theorem rawMarkers_append_plain {mode : ScanMode} {s : List Char} (hs : mode.after s = .plain)
    (t : List Char) :
    mode.rawMarkers (s ++ t) = mode.rawMarkers s ++ ScanMode.plain.rawMarkers t := by
  simp [rawMarkers_append, rawMarkers_eq_passed mode s, hs]

/-- Characters that neither begin nor end anything leave nothing under way. -/
theorem after_plain_of_start {text : List Char} (h : ∀ c ∈ text, start c = .plain) :
    ScanMode.plain.after text = .plain ∧ ScanMode.plain.rawMarkers text = [] := by
  induction text with
  | nil => simp [rawMarkers]
  | cons c rest ih =>
    have hc : ScanMode.plain.next c = .plain := h c (by simp)
    simpa [rawMarkers, hc] using ih (fun d hd => h d (by simp [hd]))

end ScanMode

/-! ## Closed texts and their markers -/

/-- The markers of a statement, with their indices as they are written. -/
def rawMarkers (sql : String) : List Marker := ScanMode.plain.rawMarkers sql.toList

theorem markers_eq_map (sql : String) : markers sql = (rawMarkers sql).map Marker.inRange :=
  ScanMode.plain.markers_eq_map sql.toList

/-- A text between two others, of inert characters. -/
def Separates (sep : String) : Prop :=
  sep ≠ "" ∧ sep.toList.all ScanMode.inert = true

instance (sep : String) : Decidable (Separates sep) := inferInstanceAs (Decidable (_ ∧ _))

theorem Separates.inert_of_mem {sep : String} (h : Separates sep) {c : Char}
    (hc : c ∈ sep.toList) : ScanMode.inert c = true := List.all_eq_true.mp h.2 c hc

theorem Separates.startsInert {sep : String} (h : Separates sep) (t : List Char) :
    ScanMode.StartsInert (sep.toList ++ t) := by
  cases hsep : sep.toList with
  | nil => exact absurd (by simpa using hsep) h.1
  | cons c rest => exact ScanMode.startsInert_cons (h.inert_of_mem (by simp [hsep])) _

theorem Separates.after_plain {sep : String} (h : Separates sep) :
    ScanMode.plain.after sep.toList = .plain ∧ ScanMode.plain.rawMarkers sep.toList = [] :=
  ScanMode.after_plain_of_start fun c hc => ((ScanMode.inert_iff c).mp (h.inert_of_mem hc)).1

/-- No marker runs across a separator behind a closed text. -/
theorem rawMarkers_append_separated {s sep : String} (hs : Closed s) (hsep : Separates sep)
    (t : String) : rawMarkers (s ++ sep ++ t) = rawMarkers s ++ rawMarkers t := by
  obtain ⟨hafter, hnone⟩ := hsep.after_plain
  simp only [rawMarkers, String.append_assoc, String.toList_append]
  rw [ScanMode.rawMarkers_append_inert hs (hsep.startsInert t.toList),
    ScanMode.rawMarkers_append_plain hafter, hnone, List.nil_append]

/-- A text that ends outside quotes and comments and has these markers. -/
structure Spans (ms : List Marker) (text : String) : Prop where
  closed : Closed text
  markers_eq : markers text = ms

namespace Spans

theorem empty : Spans [] "" := ⟨by decide, by decide⟩

/-- Nothing runs together across a separator. -/
theorem append {ms ns : List Marker} {s t sep : String} (hs : Spans ms s) (ht : Spans ns t)
    (hsep : Separates sep := by decide) : Spans (ms ++ ns) (s ++ sep ++ t) := by
  constructor
  · have hclosed := ht.closed
    rw [Closed] at hclosed ⊢
    rw [String.append_assoc, String.toList_append, String.toList_append, ScanMode.after_append,
      ScanMode.isOutside_after_inert hs.closed (hsep.startsInert t.toList), ScanMode.after_append,
      hsep.after_plain.1]
    exact hclosed
  · rw [← hs.markers_eq, ← ht.markers_eq, markers_eq_map, markers_eq_map, markers_eq_map,
      rawMarkers_append_separated hs.closed hsep, List.map_append]

/-- The same before the first text. -/
theorem prepend {ns : List Marker} {t sep : String} (ht : Spans ns t)
    (hsep : Separates sep := by decide) : Spans ns (sep ++ t) := by
  simpa using empty.append ht hsep

/-- The same behind the last text. -/
theorem concat {ms : List Marker} {s sep : String} (hs : Spans ms s)
    (hsep : Separates sep := by decide) : Spans ms (s ++ sep) := by
  simpa using hs.append empty hsep

theorem intercalate {sep : String} (hsep : Separates sep) {α : Type} {ms : α → List Marker}
    {text : α → String} (parts : List α) (h : ∀ a ∈ parts, Spans (ms a) (text a)) :
    Spans (parts.flatMap ms) (sep.intercalate (parts.map text)) := by
  induction parts with
  | nil => simpa using empty
  | cons a parts ih =>
    have ha := h a (by simp)
    have hrest := ih (fun b hb => h b (by simp [hb]))
    cases parts with
    | nil => simpa using ha
    | cons b parts =>
      rw [List.map_cons, String.intercalate_cons_of_ne_nil (by simp), List.flatMap_cons]
      exact ha.append hrest hsep

/-- A `?` and the digits of a number are one marker. -/
theorem question_toString (index : Nat) : Spans [.ofIndex index] ("?" ++ toString index) := by
  obtain ⟨hafter, hpassed⟩ := ScanMode.after_question_repr index
  have hnext : ScanMode.plain.next '?' = .question := by decide
  have htext : ("?" ++ toString index).toList = '?' :: (toString index).toList := by simp
  constructor
  · rw [Closed, htext, ScanMode.after_cons, hnext, hafter]
    rfl
  · rw [markers_eq_map, rawMarkers, htext, ScanMode.rawMarkers, hnext,
      ScanMode.rawMarkers_eq_passed, hafter, hpassed]
    rfl

/-- Digits alone are no marker. -/
theorem toString_nat (n : Nat) : Spans [] (toString n) := by
  have hstart : ∀ d ∈ Nat.toDigits 10 n, ScanMode.start d = .plain := fun d hd =>
    ScanMode.start_of_digit (isDigit_of_mem_toDigits hd)
  obtain ⟨hafter, hraw⟩ := ScanMode.after_plain_of_start hstart
  constructor
  · simp [Closed, hafter, ScanMode.isOutside]
  · simp [markers_eq_map, rawMarkers, hraw]

end Spans

end SqlStatement
