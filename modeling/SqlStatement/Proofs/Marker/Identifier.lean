import Mathlib.Data.List.Basic
import SqlStatement.Marker.Identifier
import SqlStatement.Proofs.Marker.Numbering

/-!
# Identifiers between markers

To the engine an identifier is one word (`IsIdentifier`), and a `$` inside it begins no marker. The
scanner has no words: `$` and digits are a marker wherever they stand outside quotes and comments,
so `price$2` counts as an index.

* `Around` says where an identifier may stand, and `SpelledAsAny` that numbering treats it as it
  treats the identifier `x`.
* `dollar_in_identifier_raises_index`: not every identifier is treated so.
* `spelledAsAny_iff`: it is, exactly if no index written inside it is above the indices that are in
  use anyway where the first bare marker behind it stands.
-/

namespace SqlStatement

/-- The texts around an identifier: a blank or nothing at each side, outside quotes and
comments. -/
structure Around (before behind : String) : Prop where
  before_blank : before = "" ∨ ∃ text, before = text ++ " "
  before_closed : Closed before
  behind_blank : behind = "" ∨ ∃ text, behind = " " ++ text

/-- Numbering with this identifier gives what it gives with `x`, with this one put back. -/
def SpelledAsAny (before word behind : String) : Prop :=
  ∃ front back : String,
    (number before).map Numbered.text = .ok front ∧
      (number (before ++ "x" ++ behind)).map Numbered.text = .ok (front ++ "x" ++ back) ∧
      (number (before ++ word ++ behind)).map Numbered.text = .ok (front ++ word ++ back)

/-! ## Words -/

/-- Where the scanner can stand inside a word. -/
def ScanMode.inWord : ScanMode → Bool
  | .plain | .dollar | .index _ => true
  | _ => false

theorem ScanMode.next_inWord {mode : ScanMode} (hmode : mode.inWord = true) {c : Char}
    (hc : Identifier.continues c = true) : (mode.next c).inWord = true := by
  have hne : ∀ d : Char, Identifier.continues d = false → c ≠ d := by
    rintro d hd rfl
    simp [hc] at hd
  have hstart : (ScanMode.start c).inWord = true := by
    simp only [start, hne '\'' rfl, hne '"' rfl, hne '\x60' rfl, hne '[' rfl, hne '-' rfl,
      hne '/' rfl, hne '?' rfl, or_self, if_false]
    split <;> rfl
  cases mode with
  | plain => exact hstart
  | dollar =>
    cases hd : c.isDigit
    · simpa [next, hd] using hstart
    · simp [next, hd, inWord]
  | index value =>
    cases hd : c.isDigit
    · simpa [next, hd] using hstart
    · simp [next, hd, inWord]
  | _ => simp [inWord] at hmode

/-- A word has no bare marker, and ends outside quotes and comments. -/
theorem ScanMode.word_spec {mode : ScanMode} (hmode : mode.inWord = true) (word : List Char)
    (hword : ∀ c ∈ word, Identifier.continues c = true) :
    (mode.after word).isOutside = true ∧ .bare ∉ mode.rawMarkers word := by
  have hends : ∀ {mode : ScanMode} following, mode.inWord = true →
      mode.rawEnds following ≠ some .bare := by
    intro mode following hmode h
    obtain ⟨rfl, -⟩ := (rawEnds_eq_bare_iff mode following).mp h
    simp [inWord] at hmode
  induction word generalizing mode with
  | nil =>
    constructor
    · cases mode <;> simp_all [inWord, isOutside]
    · simpa [rawMarkers, eq_comm] using hends none hmode
  | cons c rest ih =>
    have hc : Identifier.continues c = true := hword c (by simp)
    obtain ⟨hafter, hbare⟩ := ih (next_inWord hmode hc) (fun d hd => hword d (by simp [hd]))
    refine ⟨hafter, ?_⟩
    simp only [rawMarkers, List.mem_append, not_or]
    exact ⟨by simpa [eq_comm] using hends (some c) hmode, hbare⟩

theorem IsIdentifier.spec {word : String} (h : IsIdentifier word) :
    Closed word ∧ .bare ∉ rawMarkers word := by
  obtain ⟨c, rest, hword, hc, hrest⟩ := h
  have hall : ∀ d ∈ word.toList, Identifier.continues d = true := by
    rw [hword]
    intro d hd
    rcases List.mem_cons.mp hd with rfl | hd
    · simp [Identifier.continues, hc]
    · exact List.all_eq_true.mp hrest d hd
  exact ScanMode.word_spec rfl word.toList hall

theorem isIdentifier_x : IsIdentifier "x" ∧ rawMarkers "x" = [] :=
  ⟨⟨'x', [], rfl, by decide, rfl⟩, by decide +kernel⟩

/-! ## The text around a word -/

/-- A blank does not end quotes or comments, and outside it leaves nothing under way. -/
theorem ScanMode.next_blank_of_isOutside {mode : ScanMode}
    (h : (mode.next ' ').isOutside = true) : mode.next ' ' = .plain := by
  cases mode with
  | quoted close =>
    rw [next] at h ⊢
    split at h
    · rename_i hclose
      rw [if_pos hclose]
    · simp [isOutside] at h
  | lineComment => simp [next, isOutside] at h
  | blockComment => simp [next, isOutside] at h
  | star => simp [next, isOutside] at h
  | _ => rfl

namespace Around

variable {before behind : String}

/-- The identifier is read from the start. -/
theorem after_before (h : Around before behind) :
    ScanMode.plain.after before.toList = .plain := by
  rcases h.before_blank with rfl | ⟨text, rfl⟩
  · rfl
  · have hclosed := h.before_closed
    rw [Closed, String.toList_append, ScanMode.after_append] at hclosed
    rw [String.toList_append, ScanMode.after_append]
    exact ScanMode.next_blank_of_isOutside hclosed

theorem behind_inert (h : Around before behind) : ScanMode.StartsInert behind.toList := by
  rcases h.behind_blank with rfl | ⟨text, rfl⟩
  · exact ScanMode.startsInert_nil
  · have hblank : ScanMode.inert ' ' = true := by decide
    rw [String.toList_append]
    exact ScanMode.startsInert_cons hblank text.toList

/-- The markers of the whole statement. -/
theorem rawMarkers_eq (h : Around before behind) {word : String} (hword : IsIdentifier word) :
    rawMarkers (before ++ word ++ behind) =
      rawMarkers before ++ rawMarkers word ++ rawMarkers behind := by
  simp only [rawMarkers, String.toList_append, List.append_assoc]
  rw [ScanMode.rawMarkers_append_plain h.after_before,
    ScanMode.rawMarkers_append_inert hword.spec.1 h.behind_inert]

/-- What is written for the whole statement: the identifier itself, between the text before it and
the text behind it, which starts from the largest index so far. -/
theorem numberedFrom_eq (h : Around before behind) {word : String} (hword : IsIdentifier word) :
    numberedFrom 0 (before ++ word ++ behind) =
      numberedFrom 0 before ++ word ++
        numberedFrom (highestAfter 0 (rawMarkers before ++ rawMarkers word)) behind := by
  obtain ⟨hclosed, hbare⟩ := hword.spec
  apply String.toList_inj.mp
  simp only [toList_numberedFrom, String.toList_append, List.append_assoc]
  rw [ScanMode.numbered_append_plain h.after_before,
    ScanMode.numbered_append_inert hclosed h.behind_inert,
    ScanMode.numbered_of_not_bare _ _ word.toList hbare, highestAfter_append]
  rfl

theorem numberedFrom_x (h : Around before behind) :
    numberedFrom 0 (before ++ "x" ++ behind) =
      numberedFrom 0 before ++ "x" ++ numberedFrom (highestAfter 0 (rawMarkers before)) behind := by
  obtain ⟨hx, hnone⟩ := isIdentifier_x
  rw [h.numberedFrom_eq hx, hnone, List.append_nil]

/-- The indices inside an identifier reach no further than the text behind it. -/
theorem spelledAsAny_iff_numberedFrom (h : Around before behind) {word : String}
    (hword : IsIdentifier word) {numbered : Numbered}
    (hnumber : number (before ++ word ++ behind) = .ok numbered) :
    SpelledAsAny before word behind ↔
      numberedFrom (highestAfter 0 (rawMarkers before)) behind =
        numberedFrom (highestAfter 0 (rawMarkers before ++ rawMarkers word)) behind := by
  obtain ⟨hlimit, -⟩ := (number_eq_ok_iff _ numbered).mp hnumber
  obtain ⟨hx, hnone⟩ := isIdentifier_x
  have hsplit := hlimit
  rw [h.rawMarkers_eq hword, highestAfter_append] at hsplit
  -- Neither the text before the identifier nor the statement with `x` has a larger index.
  have hword_le := le_highestAfter (highestAfter 0 (rawMarkers before)) (rawMarkers word)
  rw [← highestAfter_append] at hword_le
  have hbefore : highestAfter 0 (rawMarkers before) < Marker.indexLimit :=
    Nat.lt_of_le_of_lt (Nat.le_trans hword_le (le_highestAfter _ (rawMarkers behind))) hsplit
  have hplain : highestAfter 0 (rawMarkers (before ++ "x" ++ behind)) < Marker.indexLimit := by
    rw [h.rawMarkers_eq hx, hnone, List.append_nil, highestAfter_append]
    exact Nat.lt_of_le_of_lt (highestAfter_mono hword_le (rawMarkers behind)) hsplit
  unfold SpelledAsAny
  rw [map_text_number hbefore, map_text_number hplain, map_text_number hlimit, h.numberedFrom_x,
    h.numberedFrom_eq hword]
  constructor
  · rintro ⟨front, back, hfront, hback, hback'⟩
    obtain rfl := Except.ok.inj hfront
    have hx_eq := String.append_right_inj _ |>.mp (Except.ok.inj hback)
    have hword_eq := String.append_right_inj _ |>.mp (Except.ok.inj hback')
    rw [hx_eq, hword_eq]
  · intro heq
    exact ⟨_, _, rfl, rfl, by rw [heq]⟩

end Around

/-! ## Which identifiers matter -/

/-- Not every identifier is treated alike: with `price$2` the marker behind it gets the index 3,
and with `x` the index 1. -/
theorem dollar_in_identifier_raises_index :
    ¬ ∀ before word behind : String, Around before behind → IsIdentifier word →
      (∃ numbered, number (before ++ word ++ behind) = .ok numbered) →
        SpelledAsAny before word behind := by
  intro h
  have hword : IsIdentifier "price$2" :=
    ⟨'p', "rice$2".toList, by decide +kernel, by decide, by decide +kernel⟩
  have haround : Around "SELECT " " FROM t WHERE a = ?" :=
    ⟨.inr ⟨"SELECT", by decide +kernel⟩, by decide +kernel,
      .inr ⟨"FROM t WHERE a = ?", by decide +kernel⟩⟩
  have hnumber : number ("SELECT " ++ "price$2" ++ " FROM t WHERE a = ?") =
      .ok ⟨"SELECT price$2 FROM t WHERE a = ?3", true⟩ := by decide +kernel
  have hspelled := h _ _ _ haround hword ⟨_, hnumber⟩
  have heq := (haround.spelledAsAny_iff_numberedFrom hword hnumber).mp hspelled
  have hdiffer : numberedFrom (highestAfter 0 (rawMarkers "SELECT ")) " FROM t WHERE a = ?" ≠
      numberedFrom (highestAfter 0 (rawMarkers "SELECT " ++ rawMarkers "price$2"))
        " FROM t WHERE a = ?" := by decide +kernel
  exact hdiffer heq

/-- Numbering depends on an identifier exactly if a bare marker stands behind it and an index inside
it is above every index that is in use where the first such marker stands: those of the markers
before the identifier, and those written behind it up to that marker. -/
theorem spelledAsAny_iff {before word behind : String} (h : Around before behind)
    (hword : IsIdentifier word) {numbered : Numbered}
    (hnumber : number (before ++ word ++ behind) = .ok numbered) :
    SpelledAsAny before word behind ↔
      (.bare ∈ rawMarkers behind →
        highestAfter 0 (rawMarkers word) ≤
          highestAfter 0 (rawMarkers before ++ beforeBare (rawMarkers behind))) := by
  rw [h.spelledAsAny_iff_numberedFrom hword hnumber, numberedFrom_eq_iff, assign_eq_iff]
  have hlead := bare_not_mem_beforeBare (rawMarkers behind)
  apply imp_congr_right
  intro _
  rw [highestAfter_append, highestAfter_append, highestAfter_eq_max hword.spec.2,
    highestAfter_eq_max hlead, highestAfter_eq_max hlead (max _ _)]
  omega

/-- An index inside an identifier that a marker before it has already does no harm. -/
theorem spelledAsAny_price :
    Around "SELECT ?, " " FROM t WHERE a = ?" ∧ IsIdentifier "price$1" ∧
      SpelledAsAny "SELECT ?, " "price$1" " FROM t WHERE a = ?" := by
  have hword : IsIdentifier "price$1" :=
    ⟨'p', "rice$1".toList, by decide +kernel, by decide, by decide +kernel⟩
  have haround : Around "SELECT ?, " " FROM t WHERE a = ?" :=
    ⟨.inr ⟨"SELECT ?,", by decide +kernel⟩, by decide +kernel,
      .inr ⟨"FROM t WHERE a = ?", by decide +kernel⟩⟩
  have hnumber : number ("SELECT ?, " ++ "price$1" ++ " FROM t WHERE a = ?") =
      .ok ⟨"SELECT ?1, price$1 FROM t WHERE a = ?2", true⟩ := by decide +kernel
  exact ⟨haround, hword, (spelledAsAny_iff haround hword hnumber).mpr (by decide +kernel)⟩

end SqlStatement
