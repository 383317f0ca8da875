import SqlStatement.Proofs.Marker.Lexeme
import SqlStatement.Proofs.Marker.Rules

/-!
# Numbering lexeme by lexeme

The scanner of `number` remembers a mode and looks one character ahead. Here its work is compared
with the lexemes of the statement.

* `Lexeme.Fits.leaves`: the scanner reads a whole lexeme, notices its marker where the next
  character stands, and starts anew there.
* `Splits.numbered_eq`: so what it writes is what `fill` makes of the lexemes, which gives every bare
  marker the index one past the largest of the markers before it.
* `number_eq_lexemes`: the same for `number`, which fails exactly if an index is out of range.
* `number_idempotent`: numbering a statement again changes nothing.
-/

namespace SqlStatement

namespace Lexeme

/-- The marker that this is, with its index as it is written. -/
def rawMarker? : Lexeme → Option Marker
  | .written _ digits => some (.written (Nat.ofDigitChars 10 digits 0))
  | .bare => some .bare
  | _ => none

/-- The marker that this is; an index out of range counts as 0. -/
def marker? (l : Lexeme) : Option Marker := l.rawMarker?.map Marker.inRange

def indexed (index : Nat) : Lexeme := .written '?' (toString index).toList

/-- The lexemes with an index for every bare marker: one past the largest index of the markers
before it, written or given here. `earlier` are the indices of the markers before these lexemes. -/
def fill (earlier : List Nat) : List Lexeme → List Lexeme
  | [] => []
  | l :: ls =>
    match l.marker? with
    | some .bare => indexed (1 + largest earlier) :: fill ((1 + largest earlier) :: earlier) ls
    | some (.written index) => l :: fill (index :: earlier) ls
    | none => l :: fill earlier ls

def joined (ls : List Lexeme) : String := String.ofList (ls.flatMap text)

end Lexeme

/-! ## Texts in which no marker ends -/

namespace ScanMode

/-- Over this text the scanner goes from one mode to the other, and no marker ends in it. -/
structure Passes (mode : ScanMode) (text : List Char) (last : ScanMode) : Prop where
  after : mode.after text = last
  passed : mode.passed text = []

theorem Passes.append {mode middle last : ScanMode} {s t : List Char} (hs : mode.Passes s middle)
    (ht : middle.Passes t last) : mode.Passes (s ++ t) last := by
  constructor
  · rw [after_append, hs.after, ht.after]
  · rw [passed_append, hs.passed, hs.after, ht.passed, List.append_nil]

theorem Passes.cons {mode last : ScanMode} {c : Char} {text : List Char}
    (hends : mode.rawEnds (some c) = none) (htext : (mode.next c).Passes text last) :
    mode.Passes (c :: text) last :=
  ⟨htext.after, by rw [ScanMode.passed, hends, htext.passed]; rfl⟩

theorem rawEnds_of_not_outside {mode : ScanMode} (h : mode.isOutside = false)
    (following : Option Char) : mode.rawEnds following = none := by
  cases mode <;> simp [rawEnds, isOutside] at h ⊢

theorem start_of_isQuote {c : Char} (hc : isQuote c = true) : start c = .quoted c := by
  simp only [isQuote, Bool.or_eq_true, decide_eq_true_eq, or_assoc] at hc
  exact if_pos hc

/-- A doubled quote ends one run and opens the next. -/
theorem passes_doubled {quote : Char} (hquote : isQuote quote = true) {body : List Char}
    (hbody : Doubled quote body) : (ScanMode.quoted quote).Passes body (.quoted quote) := by
  have hends : ∀ following, (ScanMode.quoted quote).rawEnds following = none :=
    rawEnds_of_not_outside rfl
  have hopen : ScanMode.plain.next quote = .quoted quote := start_of_isQuote hquote
  have hclose : (ScanMode.quoted quote).next quote = .plain := if_pos rfl
  induction hbody with
  | nil => exact ⟨rfl, rfl⟩
  | @other c text hc htext ih =>
    have hnext : (ScanMode.quoted quote).next c = .quoted quote := if_neg hc
    refine .cons (hends _) ?_
    rwa [hnext]
  | @pair text htext ih =>
    refine .cons (hends _) ?_
    rw [hclose]
    refine .cons (rawEnds_plain _) ?_
    rwa [hopen]

end ScanMode

namespace Enclosure

/-- Up to its first end mark a run has none. -/
theorem none_of_first {kind : Enclosure} {body : List Char}
    (hfirst : ¬kind.endMark <:+: (body ++ kind.endMark).dropLast) : ¬kind.endMark <:+: body := by
  intro hoccurs
  rw [List.dropLast_append_of_ne_nil kind.endMark_ne_nil] at hfirst
  exact hfirst (hoccurs.trans (List.prefix_append _ _).isInfix)

/-- Where the scanner stands behind the opening. -/
def mode : Enclosure → ScanMode
  | .brackets => .quoted ']'
  | .lineComment => .lineComment
  | .blockComment => .blockComment

/-- Where the scanner can stand inside the run when this text comes next: behind a `*` that could
begin an end mark no `/` may follow. -/
def Inside (kind : Enclosure) (mode : ScanMode) (following : List Char) : Prop :=
  mode = kind.mode ∨ kind = .blockComment ∧ mode = .star ∧ following.head? ≠ some '/'

theorem passes_opening (kind : Enclosure) : ScanMode.plain.Passes kind.opening kind.mode := by
  cases kind <;> exact ⟨rfl, rfl⟩

namespace Inside

variable {kind : Enclosure} {mode : ScanMode}

theorem not_outside {following : List Char} (h : kind.Inside mode following) :
    mode.isOutside = false := by
  obtain rfl | ⟨-, rfl, -⟩ := h
  · cases kind <;> rfl
  · rfl

/-- The end mark leaves the run. -/
theorem passes_endMark {following : List Char} (h : kind.Inside mode following) :
    mode.Passes kind.endMark .plain := by
  obtain rfl | ⟨rfl, rfl, -⟩ := h
  · cases kind <;> exact ⟨rfl, rfl⟩
  · exact ⟨rfl, rfl⟩

/-- A character that does not begin an end mark stays in the run. -/
theorem next {c : Char} {following : List Char} (h : kind.Inside mode (c :: following))
    (hnone : ¬kind.endMark <+: c :: following) : kind.Inside (mode.next c) following := by
  have hsingle : ∀ d, kind.endMark = [d] → c ≠ d := by
    rintro d hd rfl
    rw [hd] at hnone
    exact hnone (List.prefix_append [c] following)
  have hstar : kind = .blockComment → c = '*' → following.head? ≠ some '/' := by
    rintro rfl rfl hslash
    cases following with
    | nil => cases hslash
    | cons d following =>
      obtain rfl := Option.some.inj hslash
      exact hnone (List.prefix_append ['*', '/'] following)
  obtain rfl | ⟨rfl, rfl, hslash⟩ := h
  · cases kind with
    | brackets => exact .inl (if_neg (hsingle ']' rfl))
    | lineComment => exact .inl (if_neg (hsingle '\n' rfl))
    | blockComment =>
      by_cases hc : c = '*'
      · exact .inr ⟨rfl, if_pos hc, hstar rfl hc⟩
      · exact .inl (if_neg hc)
  · -- Behind a `*`, with no `/` next.
    have hslash : c ≠ '/' := by simpa using hslash
    rw [ScanMode.next, if_neg hslash]
    by_cases hc : c = '*'
    · exact .inr ⟨rfl, if_pos hc, hstar rfl hc⟩
    · exact .inl (if_neg hc)

/-- Without an end mark the scanner stays in the run. -/
theorem passes_body {body : List Char} (h : kind.Inside mode body)
    (hnone : ¬kind.endMark <:+: body) : ∃ last, mode.Passes body last ∧ kind.Inside last [] := by
  induction body generalizing mode with
  | nil => exact ⟨mode, ⟨rfl, rfl⟩, h⟩
  | cons c body ih =>
    rw [List.infix_cons_iff, not_or] at hnone
    obtain ⟨last, hpasses, hinside⟩ := ih (h.next hnone.1) hnone.2
    exact ⟨last, .cons (ScanMode.rawEnds_of_not_outside h.not_outside _) hpasses, hinside⟩

end Inside

end Enclosure

/-! ## The scanner on one lexeme -/

namespace ScanMode

/-- What the scanner leaves behind a lexeme: where this text follows, this marker ends, and the next
character is read as from the start. -/
structure Leaves (mode : ScanMode) (marker : Option Marker) (following : List Char) : Prop where
  ends : mode.rawEnds following.head? = marker
  next : ∀ c ∈ following.head?, mode.next c = start c

theorem leaves_plain (following : List Char) : ScanMode.plain.Leaves none following :=
  ⟨rawEnds_plain _, fun _ _ => rfl⟩

/-- At the end of the text a run without an end leaves no marker. -/
theorem leaves_end {mode : ScanMode} (h : mode.isOutside = false) : mode.Leaves none [] :=
  ⟨rawEnds_of_not_outside h _, by simp⟩

/-- Where no digit follows, a marker is as complete as at the end of the text. -/
theorem rawEnds_head {following : List Char} (h : startsWithDigit following = false)
    (mode : ScanMode) : mode.rawEnds following.head? = mode.rawEnds none := by
  have hnone : following.head?.any Char.isDigit = false := h
  simp [rawEnds, hnone]

end ScanMode

theorem not_digit_of_head {text : List Char} (h : startsWithDigit text = false) {c : Char}
    (hc : c ∈ text.head?) : ¬c.isDigit = true := by
  rw [startsWithDigit, Option.mem_def.mp hc] at h
  simpa using h

namespace Lexeme

/-- A character that begins nothing else leaves nothing under way that goes on. -/
theorem Fits.leaves_start {c : Char} {rest : List Char} (h : (Lexeme.other c).Fits rest) :
    (ScanMode.start c).Leaves none rest := by
  cases h with
  | other hquote hopening hbare hwritten =>
  have hquote : ¬(c = '\'' ∨ c = '"' ∨ c = '\x60') := by
    simpa [isQuote, and_assoc] using hquote
  have hbracket : c ≠ '[' := fun hc =>
    hopening .brackets ((Enclosure.opening_prefix_iff _ _ _).mpr hc)
  have hdash : c = '-' → rest.head? ≠ some '-' := fun hc hnext =>
    hopening .lineComment ((Enclosure.opening_prefix_iff _ _ _).mpr ⟨hc, hnext⟩)
  have hslash : c = '/' → rest.head? ≠ some '*' := fun hc hnext =>
    hopening .blockComment ((Enclosure.opening_prefix_iff _ _ _).mpr ⟨hc, hnext⟩)
  rw [ScanMode.start, if_neg hquote, if_neg hbracket]
  split
  · rename_i hc
    refine ⟨by simp [ScanMode.rawEnds], fun d hd => if_neg ?_⟩
    rintro rfl
    exact hdash hc hd
  · split
    · rename_i hc
      refine ⟨by simp [ScanMode.rawEnds], fun d hd => if_neg ?_⟩
      rintro rfl
      exact hslash hc hd
    · split
      · rename_i hc
        exact ⟨by simp [ScanMode.rawEnds], fun d hd => if_neg (not_digit_of_head (hwritten hc) hd)⟩
      · exact ScanMode.leaves_plain rest

/-- **The scanner reads lexemes.** It passes over a whole lexeme and leaves the marker that this
is. -/
theorem Fits.leaves {l : Lexeme} {rest : List Char} (h : l.Fits rest) :
    ∃ mode, ScanMode.plain.Passes l.text mode ∧ mode.Leaves l.rawMarker? rest := by
  have hother : ∀ c, ScanMode.plain.Passes [c] (ScanMode.start c) := fun c =>
    .cons (ScanMode.rawEnds_plain _) ⟨rfl, rfl⟩
  cases h with
  | @quoted quote body rest hquote hbody hrest =>
    have hopen := hother quote
    have hclose : (ScanMode.quoted quote).Passes [quote] .plain :=
      .cons (ScanMode.rawEnds_of_not_outside rfl _) ⟨if_pos rfl, rfl⟩
    rw [ScanMode.start_of_isQuote hquote] at hopen
    exact ⟨.plain, (hopen.append (ScanMode.passes_doubled hquote hbody)).append hclose,
      ScanMode.leaves_plain rest⟩
  | @quotedToEnd quote body hquote hbody =>
    have hopen := hother quote
    rw [ScanMode.start_of_isQuote hquote] at hopen
    refine ⟨.quoted quote, ?_, ScanMode.leaves_end rfl⟩
    simpa [text] using hopen.append (ScanMode.passes_doubled hquote hbody)
  | @enclosed kind body rest hfirst =>
    obtain ⟨last, hbody, hinside⟩ :=
      Enclosure.Inside.passes_body (.inl rfl) (Enclosure.none_of_first hfirst)
    exact ⟨.plain, (kind.passes_opening.append hbody).append hinside.passes_endMark,
      ScanMode.leaves_plain rest⟩
  | @enclosedToEnd kind body hnone =>
    obtain ⟨last, hbody, hinside⟩ := Enclosure.Inside.passes_body (.inl rfl) hnone
    refine ⟨last, ?_, ScanMode.leaves_end hinside.not_outside⟩
    simpa [text] using kind.passes_opening.append hbody
  | @written sign digits rest hsign hne hdigits hrest =>
    have hstart : ScanMode.start sign = .question ∨ ScanMode.start sign = .dollar := by
      rcases hsign with rfl | rfl
      · exact .inl rfl
      · exact .inr rfl
    obtain ⟨hafter, hpassed⟩ := ScanMode.after_sign_digits hstart hne hdigits
    exact ⟨_, (hother sign).append ⟨hafter, hpassed⟩, ScanMode.rawEnds_head hrest _,
      fun d hd => if_neg (not_digit_of_head hrest hd)⟩
  | bare hrest =>
    exact ⟨.question, hother '?', ScanMode.rawEnds_head hrest _,
      fun d hd => if_neg (not_digit_of_head hrest hd)⟩
  | @other c rest hquote hopening hbare hwritten =>
    exact ⟨_, hother c, leaves_start (.other hquote hopening hbare hwritten)⟩

end Lexeme

/-! ## The scanner on a whole statement -/

namespace ScanMode

/-- Where no marker ends, nothing is written besides the text. -/
theorem Passes.numberedWithin_eq {mode last : ScanMode} {text : List Char}
    (h : mode.Passes text last) (highest : Nat) : mode.numberedWithin highest text = text := by
  obtain ⟨-, hpassed⟩ := h
  induction text generalizing mode with
  | nil => rfl
  | cons c text ih =>
    obtain ⟨hends, hrest⟩ := List.append_eq_nil_iff.mp hpassed
    have hends : mode.rawEnds (some c) = none := by simpa using hends
    simp [numberedWithin, label, hends, ih hrest]

/-- Behind a lexeme the marker that it leaves comes first. -/
theorem Leaves.rawMarkers_eq {mode : ScanMode} {marker : Option Marker} {text : List Char}
    (h : mode.Leaves marker text) :
    mode.rawMarkers text = marker.toList ++ ScanMode.plain.rawMarkers text := by
  obtain ⟨hends, hnext⟩ := h
  cases text with
  | nil => simpa [rawMarkers] using congrArg Option.toList hends
  | cons c text =>
    have hc : mode.next c = ScanMode.plain.next c := hnext c rfl
    rw [rawMarkers, rawMarkers, hc, ← hends]
    simp

theorem Leaves.numbered_eq {mode : ScanMode} {marker : Option Marker} {text : List Char}
    (h : mode.Leaves marker text) (highest : Nat) :
    mode.numbered highest text =
      (if marker = some .bare then (toString (highest + 1)).toList else []) ++
        ScanMode.plain.numbered (highestAfter highest marker.toList) text := by
  obtain ⟨hends, hnext⟩ := h
  cases text with
  | nil =>
    rw [List.head?_nil] at hends
    simp [numbered, label, hends]
  | cons c text =>
    have hc : mode.next c = ScanMode.plain.next c := hnext c rfl
    rw [List.head?_cons] at hends
    simp [numbered, label, hends, hc]

end ScanMode

theorem highestAfter_singleton (earlier : List Nat) (m : Marker) :
    highestAfter (largest earlier) [m] = largest (m.index (largest earlier) :: earlier) :=
  Nat.max_comm _ _

namespace Splits

/-- The markers of a text are those among its lexemes. -/
theorem rawMarkers_eq {text : List Char} {ls : List Lexeme} (h : Splits text ls) :
    ScanMode.plain.rawMarkers text = ls.filterMap Lexeme.rawMarker? := by
  induction h with
  | nil => simp [ScanMode.rawMarkers]
  | @cons l rest ls hfits hrest ih =>
    obtain ⟨mode, hpasses, hleaves⟩ := hfits.leaves
    rw [ScanMode.rawMarkers_append, hpasses.after, hpasses.passed, hleaves.rawMarkers_eq, ih]
    cases hmarker : l.rawMarker? <;> simp [hmarker]

/-- What the scanner writes for a text are its lexemes with the indices filled in. -/
theorem numbered_eq {text : List Char} {ls : List Lexeme} (h : Splits text ls)
    (earlier : List Nat) :
    ScanMode.plain.numbered (largest earlier) text =
      (Lexeme.fill earlier ls).flatMap Lexeme.text := by
  induction h generalizing earlier with
  | nil => simp [ScanMode.numbered, ScanMode.label, Lexeme.fill]
  | @cons l rest ls hfits hrest ih =>
    obtain ⟨mode, hpasses, hleaves⟩ := hfits.leaves
    rw [ScanMode.numbered_append, hpasses.after, hpasses.passed, hpasses.numberedWithin_eq,
      highestAfter_nil, hleaves.numbered_eq, Lexeme.fill]
    cases l with
    | bare =>
      have hnext : highestAfter (largest earlier) [.bare] =
          largest ((1 + largest earlier) :: earlier) := by
        rw [highestAfter_singleton, Marker.index, Nat.add_comm]
      simp [Lexeme.rawMarker?, Lexeme.marker?, Marker.inRange, Lexeme.indexed, Lexeme.text,
        hnext, ih, Nat.add_comm 1]
    | written sign digits =>
      have hnext := highestAfter_singleton earlier (.written (Nat.ofDigitChars 10 digits 0))
      simp only [Lexeme.rawMarker?, Option.toList_some, hnext, ih]
      simp [Lexeme.marker?, Lexeme.rawMarker?, Marker.inRange, Marker.ofIndex, Marker.index]
    | quoted | enclosed | other =>
      simp [Lexeme.rawMarker?, Lexeme.marker?, ih]

theorem numberedFrom_eq {sql : String} {ls : List Lexeme} (h : Splits sql.toList ls)
    (earlier : List Nat) :
    numberedFrom (largest earlier) sql = Lexeme.joined (Lexeme.fill earlier ls) := by
  apply String.toList_inj.mp
  rw [toList_numberedFrom, Lexeme.joined, String.toList_ofList, h.numbered_eq]

/-- The markers of a statement, an index out of range counting as 0. -/
theorem markers_eq {sql : String} {ls : List Lexeme} (h : Splits sql.toList ls) :
    markers sql = ls.filterMap Lexeme.marker? := by
  rw [markers_eq_map, rawMarkers, h.rawMarkers_eq, List.map_filterMap]
  rfl

end Splits

/-- Without written markers, the bare ones are counted on from the largest index before. -/
theorem Lexeme.getElem?_fill {earlier : List Nat} {ls : List Lexeme}
    (hls : ∀ index, .written index ∉ ls.filterMap marker?) (i : Nat) :
    (fill earlier ls)[i]? = ls[i]?.map fun l =>
      if l = .bare then indexed (largest earlier + (ls.take (i + 1)).count .bare) else l := by
  induction ls generalizing earlier i with
  | nil => rfl
  | cons l ls ih =>
    have hrest : ∀ index, .written index ∉ ls.filterMap marker? := fun index hmem =>
      hls index (((List.sublist_cons_self l ls).filterMap marker?).subset hmem)
    cases l with
    | bare =>
      have hfill : fill earlier (.bare :: ls) =
        indexed (1 + largest earlier) :: fill ((1 + largest earlier) :: earlier) ls := rfl
      have hlargest : largest ((1 + largest earlier) :: earlier) = 1 + largest earlier := by
        simp only [largest, List.foldr_cons]
        omega
      rw [hfill]
      cases i with
      | zero =>
        rw [List.getElem?_cons_zero, Nat.add_comm]
        rfl
      | succ i =>
        have hcount : 1 + largest earlier + (ls.take (i + 1)).count .bare =
            largest earlier + ((ls.take (i + 1)).count .bare + 1) := by omega
        simp [ih hrest, hlargest, hcount]
    | written sign digits =>
      have hmem : Marker.ofIndex (Nat.ofDigitChars 10 digits 0) ∈
          (Lexeme.written sign digits :: ls).filterMap marker? :=
        List.mem_filterMap.mpr ⟨_, List.mem_cons_self, rfl⟩
      exact absurd hmem (hls _)
    | quoted | enclosed | other =>
      cases i with
      | zero => simp [fill, marker?, rawMarker?]
      | succ i => simp [fill, marker?, rawMarker?, ih hrest]

/-! ## The largest index -/

/-- The indices in range are exactly those up to the largest. -/
theorem largest_lt_iff {indices : List Nat} {bound : Nat} (hbound : 0 < bound) :
    largest indices < bound ↔ ∀ index ∈ indices, index < bound := by
  induction indices with
  | nil => simpa [largest] using hbound
  | cons index indices ih =>
    have hcons : largest (index :: indices) = max index (largest indices) := rfl
    rw [hcons, Nat.max_lt, ih, List.forall_mem_cons]

/-- The largest index in use is that of a marker, unless it was in use before. -/
theorem highestAfter_eq_max_largest (highest : Nat) (ms : List Marker) :
    highestAfter highest ms = max highest (largest (indices highest ms)) := by
  induction ms generalizing highest with
  | nil => simp [indices, largest]
  | cons m ms ih =>
    have hcons : largest (indices highest (m :: ms)) =
      max (m.index highest) (largest (indices (max highest (m.index highest)) ms)) := rfl
    rw [highestAfter_cons, ih, hcons]
    omega

/-! ## Whole statements -/

theorem Lexeme.rawMarker?_eq_bare_iff (l : Lexeme) : l.rawMarker? = some .bare ↔ l = .bare := by
  cases l <;> simp [rawMarker?]

theorem Lexeme.bare_mem_iff (ls : List Lexeme) :
    Marker.bare ∈ ls.filterMap rawMarker? ↔ Lexeme.bare ∈ ls := by
  simp [List.mem_filterMap, rawMarker?_eq_bare_iff]

theorem Marker.fits_inRange (m : Marker) : m.inRange.fits = true := by
  have hlimit : 0 < indexLimit := by decide
  cases m with
  | written value => by_cases h : value < indexLimit <;> simp [inRange, ofIndex, fits, h, hlimit]
  | bare => rfl

/-- The largest index in use after these markers is the largest index of one of them. -/
theorem largest_engineIndices (ms : List Marker) :
    largest (engineIndices [] (ms.map Marker.inRange)) = highestAfter 0 ms := by
  have hfit : ∀ m ∈ ms.map Marker.inRange, m.fits = true := by
    intro m hm
    obtain ⟨raw, -, rfl⟩ := List.mem_map.mp hm
    exact raw.fits_inRange
  rw [engineIndices_eq_indices [] _ hfit, indices_inRange, highestAfter_eq_max_largest,
    Nat.zero_max]
  rfl

/-- **Numbering is filling in.** A statement falls into lexemes in exactly one way. Unless an index
is out of range, numbering it gives the same lexemes with an index for every bare marker, one past
the largest index of the markers before it; the statement has changed if it had a bare marker. -/
theorem number_eq_lexemes (sql : String) :
    ∃ ls, (∀ ls', Splits sql.toList ls' ↔ ls' = ls) ∧
      number sql =
        if ∀ index ∈ engineIndices [] (ls.filterMap Lexeme.marker?), index < Marker.indexLimit then
          .ok ⟨Lexeme.joined (Lexeme.fill [] ls), decide (.bare ∈ ls)⟩
        else .error .indexOverflow := by
  have hsplits : Splits sql.toList (lexemes sql.toList) := splits_iff.mpr rfl
  refine ⟨lexemes sql.toList, fun ls' => splits_iff.trans eq_comm, ?_⟩
  have hmarkers : (lexemes sql.toList).filterMap Lexeme.marker? =
      (rawMarkers sql).map Marker.inRange := by
    rw [← hsplits.markers_eq, markers_eq_map]
  have htext : numberedFrom 0 sql = Lexeme.joined (Lexeme.fill [] (lexemes sql.toList)) :=
    hsplits.numberedFrom_eq []
  have hbare : Marker.bare ∈ rawMarkers sql ↔ Lexeme.bare ∈ lexemes sql.toList := by
    rw [rawMarkers, hsplits.rawMarkers_eq, Lexeme.bare_mem_iff]
  have hlimit : 0 < Marker.indexLimit := by decide
  simp only [number_eq, ← largest_engineIndices, largest_lt_iff hlimit, hmarkers, htext, hbare]

/-- Every bare marker counts with the index that it is given. -/
theorem highestAfter_assign {highest : Nat} {ms : List Marker}
    (h : highestAfter highest ms < Marker.indexLimit) :
    highestAfter highest (assign highest ms) = highestAfter highest ms := by
  induction ms generalizing highest with
  | nil => rfl
  | cons m ms ih =>
    rw [highestAfter_cons] at h
    have hm : (m.assigned highest).index highest = m.index highest := by
      cases m with
      | written value => rfl
      | bare =>
        have hle := le_highestAfter (max highest (Marker.bare.index highest)) ms
        have hlt : highest + 1 < Marker.indexLimit := by
          rw [Marker.index] at hle h
          omega
        rw [Marker.assigned, Marker.index, Marker.index, if_pos hlt]
    rw [assign, highestAfter_cons, highestAfter_cons, hm, ih h]

/-- **Numbering again changes nothing.** What numbering gives can be numbered, and stays as it
is. -/
theorem number_idempotent {sql : String} {numbered : Numbered} (h : number sql = .ok numbered) :
    number numbered.text = .ok ⟨numbered.text, false⟩ := by
  obtain ⟨hlimit, rfl⟩ := (number_eq_ok_iff sql numbered).mp h
  -- The text that is written has the assigned markers, and none of these is bare.
  have hmarkers := rawMarkers_numberedFrom 0 sql
  have hbare : .bare ∉ rawMarkers (numberedFrom 0 sql) := hmarkers ▸ bare_not_mem_assign 0 _
  have hsame : numberedFrom 0 (numberedFrom 0 sql) = numberedFrom 0 sql := by
    apply String.toList_inj.mp
    rw [toList_numberedFrom, ScanMode.numbered_of_not_bare _ _ _ hbare]
  refine (number_eq_ok_iff _ _).mpr ⟨?_, ?_⟩
  · rw [hmarkers, highestAfter_assign hlimit]
    exact hlimit
  · simp [hsame, hbare]

/-- The last index there is, behind the one before it. -/
theorem number_idempotent_last :
    number "?18446744073709551614 '?' ?" =
        .ok ⟨"?18446744073709551614 '?' ?18446744073709551615", true⟩ ∧
      number "?18446744073709551614 '?' ?18446744073709551615" =
        .ok ⟨"?18446744073709551614 '?' ?18446744073709551615", false⟩ := by
  have h : number "?18446744073709551614 '?' ?" =
      .ok ⟨"?18446744073709551614 '?' ?18446744073709551615", true⟩ := by decide +kernel
  have hagain := number_idempotent h
  exact ⟨h, hagain⟩

end SqlStatement
