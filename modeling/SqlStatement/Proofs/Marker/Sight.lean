import SqlStatement.Marker.Walk
import SqlStatement.Proofs.Marker.Octets

/-!
# What the walk over the bytes sees

The walk of `numberBytes` takes in one or more bytes at each turn, where the scanner of `number`
reads one character after the other.

* `ScanMode.Covers`: the scanner goes over a piece of the text and finds at most one marker there.
* `Walk.look_spec`: what the walk sees at an offset is a piece that the scanner goes over, from the
  mode of one region to the mode of the next, with the marker that the scanner finds there.
-/

namespace SqlStatement

/-! ## Pieces of a text -/

namespace ScanMode

/-- The scanner goes over this piece to the other mode and finds this marker there, if this text
follows. -/
structure Covers (mode : ScanMode) (piece : List Char) (marker : Option Marker) (last : ScanMode)
    (rest : List Char) : Prop where
  markers : mode.markers (piece ++ rest) = marker.toList ++ last.markers rest
  numbered : ∀ highest, mode.numbered highest (piece ++ rest) =
    piece ++ (if marker = some .bare then (toString (highest + 1)).toList else []) ++
      last.numbered (highestAfter highest marker.toList) rest

theorem Passes.covers {mode last : ScanMode} {piece : List Char} (h : mode.Passes piece last)
    (rest : List Char) : mode.Covers piece none last rest := by
  constructor
  · rw [markers_eq_map, markers_eq_map, rawMarkers_append, h.passed, h.after]
    rfl
  · intro highest
    rw [numbered_append, h.passed, h.after, h.numberedWithin_eq]
    simp

/-- Behind the piece the marker that it leaves is found, and the scanner starts anew. -/
theorem Leaves.covers {mode middle : ScanMode} {marker : Option Marker} {piece rest : List Char}
    (hleaves : middle.Leaves marker rest) (hpiece : mode.Passes piece middle) :
    mode.Covers piece (marker.map Marker.inRange) .plain rest := by
  have hpassed := hpiece.covers rest
  constructor
  · rw [hpassed.markers, markers_eq_map, hleaves.rawMarkers_eq, markers_eq_map, List.map_append,
      Option.toList_map]
    rfl
  · intro highest
    have hbare : marker.map Marker.inRange = some .bare ↔ marker = some .bare := by
      cases marker with
      | none => simp
      | some m => cases m <;> simp [Marker.inRange, Marker.ofIndex]
    rw [hpassed.numbered, hleaves.numbered_eq, Option.toList_map, highestAfter_inRange]
    simp only [hbare]
    simp

/-- In a block comment a `*` counts for nothing if no `/` follows. -/
theorem covers_star {rest : List Char} (h : rest.head? ≠ some '/') :
    ScanMode.blockComment.Covers ['*'] none .blockComment rest := by
  have hpassed : ScanMode.blockComment.Passes ['*'] .star := ⟨rfl, rfl⟩
  have hcovers := hpassed.covers rest
  cases rest with
  | nil => exact ⟨hcovers.markers, hcovers.numbered⟩
  | cons c rest =>
    have hc : ScanMode.star.next c = ScanMode.blockComment.next c := by
      have hslash : c ≠ '/' := by simpa using h
      rw [next, next, if_neg hslash]
    constructor
    · rw [hcovers.markers, markers_eq_map, markers_eq_map, rawMarkers, rawMarkers, hc]
      rfl
    · intro highest
      rw [hcovers.numbered, ScanMode.numbered, ScanMode.numbered, hc]
      rfl

end ScanMode

theorem startsWithDigit_eq_false_iff {text : List Char} :
    startsWithDigit text = false ↔ text.takeWhile Char.isDigit = [] := by
  cases text with
  | nil => simp [startsWithDigit]
  | cons c text => cases h : c.isDigit <;> simp [startsWithDigit, h]

theorem Lexeme.Fits.covers {l : Lexeme} {rest : List Char} (h : l.Fits rest) :
    ScanMode.plain.Covers l.text l.marker? .plain rest := by
  obtain ⟨mode, hpasses, hleaves⟩ := h.leaves
  exact hleaves.covers hpasses

/-! ## Bytes as characters -/

namespace Text

/-- A byte is a digit if the character is that it reads as. -/
theorem isDigit_comp_ofUInt8 : Char.isDigit ∘ Char.ofUInt8 = isDigitByte := by
  funext b
  rw [Function.comp_apply, Bool.eq_iff_iff, Char.isDigit_iff_toNat, toNat_ofUInt8, isDigitByte,
    Bool.and_eq_true, decide_eq_true_eq, decide_eq_true_eq, UInt8.le_iff_toNat_le,
    UInt8.le_iff_toNat_le]
  rfl

theorem takeWhile_octets (bytes : List UInt8) :
    (octets bytes).takeWhile Char.isDigit = octets (bytes.takeWhile isDigitByte) := by
  rw [octets, List.takeWhile_map, isDigit_comp_ofUInt8]
  rfl

theorem dropWhile_octets (bytes : List UInt8) :
    (octets bytes).dropWhile Char.isDigit = octets (bytes.dropWhile isDigitByte) := by
  rw [octets, List.dropWhile_map, isDigit_comp_ofUInt8]
  rfl

theorem digitsValue_eq (bytes : List UInt8) :
    digitsValue bytes = Nat.ofDigitChars 10 (octets bytes) 0 := by
  rw [digitsValue, Nat.ofDigitChars, octets, List.foldl_map]
  simp only [toNat_ofUInt8]
  rfl

end Text

theorem startsWithDigit_octets {bytes : List UInt8}
    (hnone : bytes.takeWhile Text.isDigitByte = []) :
    startsWithDigit (Text.octets bytes) = false := by
  rw [startsWithDigit_eq_false_iff, Text.takeWhile_octets, hnone]
  rfl

/-! ## What the walk sees -/

namespace Region

/-- The mode in which the scanner reads what the walk goes through. -/
def mode : Region → ScanMode
  | .normal => .plain
  | .quoted close => .quoted (Char.ofUInt8 close)
  | .lineComment => .lineComment
  | .blockComment => .blockComment

/-- A run is closed by a quote or a bracket. -/
def Legal : Region → Prop
  | .quoted close => isQuote (Char.ofUInt8 close) = true ∨ close = ']'.toUInt8
  | _ => True

/-- No marker is under way. -/
theorem rawEnds_mode (region : Region) (following : Option Char) :
    region.mode.rawEnds following = none := by
  cases region <;> simp [mode, ScanMode.rawEnds]

theorem passes_mode {region : Region} {c : Char} {last : ScanMode}
    (hnext : region.mode.next c = last) : region.mode.Passes [c] last :=
  .cons (rawEnds_mode region _) ⟨hnext, rfl⟩

end Region

/-- What a sight shows of the text that comes next: a piece, over which the scanner goes as the walk
does, and what follows it. -/
structure Sight.Shows (sight : Sight) (bytes : List UInt8) (offset : Nat) (region : Region)
    (piece rest : List UInt8) : Prop where
  split : bytes.drop offset = piece ++ rest
  last : sight.last + 1 = offset + piece.length
  legal : sight.region.Legal
  covers : region.mode.Covers (Text.octets piece) sight.marker sight.region.mode (Text.octets rest)
  written : ∀ index, sight.marker = some (.written index) → index < Marker.indexLimit
  bare : sight.marker = some .bare →
    region = .normal ∧ piece = ['?'.toUInt8] ∧ scanIndex bytes (offset + 1) = .ok none

namespace Walk

variable {bytes tail : List UInt8} {offset : Nat} {b : UInt8} {region last : Region}

theorem drop_succ (hdrop : bytes.drop offset = b :: tail) : bytes.drop (offset + 1) = tail := by
  rw [← List.drop_drop, hdrop]
  rfl

theorem getElem?_succ_of_drop (hdrop : bytes.drop offset = b :: tail) :
    bytes[offset + 1]? = tail.head? := by
  rw [← List.head?_drop, drop_succ hdrop]

/-- A piece without a marker. -/
theorem shows_unmarked {stop : Nat} {piece rest : List UInt8}
    (hsplit : bytes.drop offset = piece ++ rest) (hstop : stop + 1 = offset + piece.length)
    (hlegal : last.Legal)
    (hcovers : region.mode.Covers (Text.octets piece) none last.mode (Text.octets rest)) :
    Sight.Shows ⟨stop, last, none⟩ bytes offset region piece rest :=
  ⟨hsplit, hstop, hlegal, hcovers, by simp, by simp⟩

/-- One byte that is no marker. -/
theorem shows_one (hdrop : bytes.drop offset = b :: tail) (hlegal : last.Legal)
    (hnext : region.mode.next (Char.ofUInt8 b) = last.mode) :
    Sight.Shows ⟨offset, last, none⟩ bytes offset region [b] tail :=
  shows_unmarked hdrop rfl hlegal ((Region.passes_mode hnext).covers _)

/-- Two bytes that are no marker. -/
theorem shows_two {c : UInt8} (hdrop : bytes.drop offset = b :: tail)
    (hnext : bytes[offset + 1]? = some c)
    (hpasses : region.mode.Passes [Char.ofUInt8 b, Char.ofUInt8 c] last.mode)
    (hlegal : last.Legal) :
    ∃ rest, Sight.Shows ⟨offset + 1, last, none⟩ bytes offset region [b, c] rest := by
  rw [getElem?_succ_of_drop hdrop, List.head?_eq_some_iff] at hnext
  obtain ⟨rest, hrest⟩ := hnext
  exact ⟨rest, shows_unmarked (by rw [hdrop, hrest]; rfl) rfl hlegal (hpasses.covers _)⟩

theorem look_quoted_spec {close : UInt8} (hdrop : bytes.drop offset = b :: tail)
    (hlegal : (Region.quoted close).Legal) :
    ∃ sight piece rest, look bytes offset b (.quoted close) = .ok sight ∧
      sight.Shows bytes offset (.quoted close) piece rest := by
  rw [look]
  split
  · next hclose =>
    subst hclose
    have hend : (Region.quoted b).mode.next (Char.ofUInt8 b) = .plain := if_pos rfl
    split
    · next hdoubled =>
      have hquote : isQuote (Char.ofUInt8 b) = true := hlegal.resolve_right hdoubled.1
      have hopen : Region.normal.mode.next (Char.ofUInt8 b) = (Region.quoted b).mode :=
        ScanMode.start_of_isQuote hquote
      obtain ⟨rest, hshows⟩ := shows_two hdrop hdoubled.2
        ((Region.passes_mode hend).append (Region.passes_mode hopen)) hlegal
      exact ⟨_, _, _, rfl, hshows⟩
    · exact ⟨_, _, _, rfl, shows_one hdrop trivial hend⟩
  · next hclose =>
    have hinside : (Region.quoted close).mode.next (Char.ofUInt8 b) = (Region.quoted close).mode :=
      if_neg fun h => hclose (Text.ofUInt8_inj h)
    exact ⟨_, _, _, rfl, shows_one hdrop hlegal hinside⟩

theorem look_lineComment_spec (hdrop : bytes.drop offset = b :: tail) :
    ∃ sight piece rest, look bytes offset b .lineComment = .ok sight ∧
      sight.Shows bytes offset .lineComment piece rest := by
  refine ⟨_, _, _, rfl, shows_one hdrop ?_ ?_⟩
  · split <;> trivial
  · split
    · next hb => exact if_pos ((Text.ofUInt8_eq_iff (by decide)).mpr hb)
    · next hb => exact if_neg fun h => hb ((Text.ofUInt8_eq_iff (by decide)).mp h)

theorem look_blockComment_spec (hdrop : bytes.drop offset = b :: tail) :
    ∃ sight piece rest, look bytes offset b .blockComment = .ok sight ∧
      sight.Shows bytes offset .blockComment piece rest := by
  have hnext : bytes[offset + 1]? = tail.head? := getElem?_succ_of_drop hdrop
  rw [look]
  split
  · next hend =>
    obtain ⟨rfl, hslash⟩ := hend
    have hpasses : Region.blockComment.mode.Passes ['*', '/'] Region.normal.mode := ⟨rfl, rfl⟩
    obtain ⟨rest, hshows⟩ := shows_two hdrop hslash hpasses trivial
    exact ⟨_, _, _, rfl, hshows⟩
  · next hend =>
    by_cases hstar : b = '*'.toUInt8
    · subst hstar
      have hslash : (Text.octets tail).head? ≠ some '/' := by
        rw [Ne, Text.head?_octets_eq_some_iff (by decide), ← hnext]
        exact fun h => hend ⟨rfl, h⟩
      have hshows : Sight.Shows ⟨offset, .blockComment, none⟩ bytes offset .blockComment
          ['*'.toUInt8] tail :=
        shows_unmarked hdrop rfl trivial (ScanMode.covers_star hslash)
      exact ⟨_, _, _, rfl, hshows⟩
    · have hstar : Char.ofUInt8 b ≠ '*' := fun h => hstar ((Text.ofUInt8_eq_iff (by decide)).mp h)
      exact ⟨_, _, _, rfl, shows_one hdrop trivial (if_neg hstar)⟩

/-- A byte that begins nothing. -/
theorem shows_other (hdrop : bytes.drop offset = b :: tail)
    (hfits : (Lexeme.other (Char.ofUInt8 b)).Fits (Text.octets tail)) :
    Sight.Shows ⟨offset, .normal, none⟩ bytes offset .normal [b] tail :=
  shows_unmarked hdrop rfl trivial hfits.covers

theorem lookSign_bare (hdrop : bytes.drop offset = '?'.toUInt8 :: tail)
    (hnone : tail.takeWhile Text.isDigitByte = []) :
    Sight.Shows ⟨offset, .normal, some .bare⟩ bytes offset .normal ['?'.toUInt8] tail := by
  have hscan : scanIndex bytes (offset + 1) = .ok none := by
    rw [scanIndex_eq, drop_succ hdrop]
    exact if_pos hnone
  have hdigit := startsWithDigit_octets hnone
  exact ⟨hdrop, rfl, trivial, (Lexeme.Fits.bare hdigit).covers, by simp, fun _ => ⟨rfl, rfl, hscan⟩⟩

theorem lookSign_dollar (hdrop : bytes.drop offset = '$'.toUInt8 :: tail)
    (hnone : tail.takeWhile Text.isDigitByte = []) :
    Sight.Shows ⟨offset, .normal, none⟩ bytes offset .normal ['$'.toUInt8] tail := by
  have hdigit := startsWithDigit_octets hnone
  have hfits : (Lexeme.other '$').Fits (Text.octets tail) := by
    refine .other rfl (fun kind hprefix => ?_) (by decide) fun _ => hdigit
    rw [Enclosure.opening_prefix_iff] at hprefix
    cases kind <;> simp at hprefix
  exact shows_other hdrop hfits

theorem lookSign_written (hdrop : bytes.drop offset = b :: tail)
    (hsign : b = '?'.toUInt8 ∨ b = '$'.toUInt8) {digits : List UInt8}
    (hdigits : tail.takeWhile Text.isDigitByte = digits) (hne : digits ≠ []) :
    Sight.Shows ⟨offset + digits.length, .normal, some (Marker.ofIndex (Text.digitsValue digits))⟩
      bytes offset .normal (b :: digits) (tail.dropWhile Text.isDigitByte) := by
  have hfits : (Lexeme.written (Char.ofUInt8 b) (Text.octets digits)).Fits
      (Text.octets (tail.dropWhile Text.isDigitByte)) := by
    refine .written ?_ (by simpa [Text.octets] using hne) ?_ ?_
    · rcases hsign with rfl | rfl
      · exact .inl rfl
      · exact .inr rfl
    · rw [← hdigits, ← Text.takeWhile_octets]
      exact fun d hd => List.mem_takeWhile_imp hd
    · rw [← Text.dropWhile_octets]
      exact startsWithDigit_dropWhile _
  refine ⟨?_, by simp; omega, trivial, ?_, ?_, ?_⟩
  · rw [hdrop, ← hdigits, List.cons_append, List.takeWhile_append_dropWhile]
  · rw [Text.digitsValue_eq]
    exact hfits.covers
  · intro index hindex
    rw [Option.some_inj, Marker.ofIndex, Marker.written.injEq] at hindex
    rw [← hindex]
    split
    · assumption
    · decide
  · simp [Marker.ofIndex]

/-- The sign of a marker is seen with the digits behind it, which are its index, or without any. -/
theorem lookSign_spec (hdrop : bytes.drop offset = b :: tail)
    (hsign : b = '?'.toUInt8 ∨ b = '$'.toUInt8) :
    ∃ sight piece rest, lookSign bytes offset b = .ok sight ∧
      sight.Shows bytes offset .normal piece rest := by
  rw [lookSign_eq, drop_succ hdrop]
  dsimp only
  split
  · next hnone =>
    rcases hsign with rfl | rfl
    · exact ⟨_, _, _, rfl, lookSign_bare hdrop hnone⟩
    · exact ⟨_, _, _, rfl, lookSign_dollar hdrop hnone⟩
  · next hne => exact ⟨_, _, _, rfl, lookSign_written hdrop hsign rfl hne⟩

theorem isQuote_ofUInt8_iff : isQuote (Char.ofUInt8 b) = true ↔
    b = '\''.toUInt8 ∨ b = '"'.toUInt8 ∨ b = '\x60'.toUInt8 := by
  have hchar : ∀ c : Char, ¬Text.Wide c → (Char.ofUInt8 b = c ↔ b = c.toUInt8) := fun c hc =>
    Text.ofUInt8_eq_iff hc
  simp only [isQuote, Bool.or_eq_true, decide_eq_true_eq, hchar '\'' (by decide),
    hchar '"' (by decide), hchar '\x60' (by decide), or_assoc]

/-- A byte that opens no run and is not the sign of a marker is by itself for the scanner too. -/
theorem fits_other
    (hquote : ¬(b = '\''.toUInt8 ∨ b = '"'.toUInt8 ∨ b = '\x60'.toUInt8))
    (hbracket : b ≠ '['.toUInt8) (hdash : ¬(b = '-'.toUInt8 ∧ tail.head? = some '-'.toUInt8))
    (hslash : ¬(b = '/'.toUInt8 ∧ tail.head? = some '*'.toUInt8))
    (hsign : ¬(b = '?'.toUInt8 ∨ b = '$'.toUInt8)) :
    (Lexeme.other (Char.ofUInt8 b)).Fits (Text.octets tail) := by
  have hchar : ∀ c : Char, ¬Text.Wide c → (Char.ofUInt8 b = c ↔ b = c.toUInt8) := fun c hc =>
    Text.ofUInt8_eq_iff hc
  have hhead : ∀ c : Char, ¬Text.Wide c →
      ((Text.octets tail).head? = some c ↔ tail.head? = some c.toUInt8) := fun c hc =>
    Text.head?_octets_eq_some_iff hc
  rw [not_or, ← hchar '?' (by decide), ← hchar '$' (by decide)] at hsign
  refine .other ?_ (fun kind hprefix => ?_) hsign.1 fun h => absurd h hsign.2
  · rwa [← isQuote_ofUInt8_iff, Bool.not_eq_true] at hquote
  · rw [Enclosure.opening_prefix_iff] at hprefix
    cases kind with
    | brackets => exact hbracket ((hchar '[' (by decide)).mp hprefix)
    | lineComment =>
      exact hdash
        ⟨(hchar '-' (by decide)).mp hprefix.1, (hhead '-' (by decide)).mp hprefix.2⟩
    | blockComment =>
      exact hslash
        ⟨(hchar '/' (by decide)).mp hprefix.1, (hhead '*' (by decide)).mp hprefix.2⟩

theorem look_normal_spec (hdrop : bytes.drop offset = b :: tail) :
    ∃ sight piece rest, look bytes offset b .normal = .ok sight ∧
      sight.Shows bytes offset .normal piece rest := by
  have hnext : bytes[offset + 1]? = tail.head? := getElem?_succ_of_drop hdrop
  rw [look, lookNormal]
  split_ifs with hquote hbracket hdash hslash hsign
  · have hisQuote := isQuote_ofUInt8_iff.mpr hquote
    exact ⟨_, _, _, rfl, shows_one hdrop (.inl hisQuote) (ScanMode.start_of_isQuote hisQuote)⟩
  · subst hbracket
    have hopen : Region.normal.mode.next '[' = (Region.quoted ']'.toUInt8).mode := rfl
    exact ⟨_, _, _, rfl, shows_one hdrop (.inr rfl) hopen⟩
  · obtain ⟨rfl, hdash⟩ := hdash
    have hopen : Region.normal.mode.Passes ['-', '-'] Region.lineComment.mode := ⟨rfl, rfl⟩
    obtain ⟨rest, hshows⟩ := shows_two hdrop hdash hopen trivial
    exact ⟨_, _, _, rfl, hshows⟩
  · obtain ⟨rfl, hslash⟩ := hslash
    have hopen : Region.normal.mode.Passes ['/', '*'] Region.blockComment.mode := ⟨rfl, rfl⟩
    obtain ⟨rest, hshows⟩ := shows_two hdrop hslash hopen trivial
    exact ⟨_, _, _, rfl, hshows⟩
  · exact lookSign_spec hdrop hsign
  · rw [hnext] at hdash hslash
    exact ⟨_, _, _, rfl, shows_other hdrop (fits_other hquote hbracket hdash hslash hsign)⟩

/-- **What the walk sees.** At every byte of the statement the walk sees something, and looks at no
byte behind the end. -/
theorem look_spec (hdrop : bytes.drop offset = b :: tail) (hlegal : region.Legal) :
    ∃ sight piece rest, look bytes offset b region = .ok sight ∧
      sight.Shows bytes offset region piece rest := by
  cases region with
  | normal => exact look_normal_spec hdrop
  | quoted close => exact look_quoted_spec hdrop hlegal
  | lineComment => exact look_lineComment_spec hdrop
  | blockComment => exact look_blockComment_spec hdrop

end Walk

end SqlStatement
