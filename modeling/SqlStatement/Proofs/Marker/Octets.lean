import SqlStatement.Proofs.Marker.Filling
import SqlStatement.Proofs.Text.Octets

/-!
# The scanner on bytes

Every character that the scanner looks for is a single byte, and the bytes of any other character
are none of them. So it does not matter whether the scanner reads characters or bytes, each of them
as a character of its own: the markers are the same (`rawMarkers_octets`), and what is written has
the bytes of what would be written (`numbered_octets`).
-/

namespace SqlStatement

namespace ScanMode

open Text (Wide octets spread)

/-! ## Wide characters -/

/-- A run that the scanner stands in is closed by an ASCII character. -/
def ClosesNarrow : ScanMode → Prop
  | .quoted close => ¬Wide close
  | _ => True

/-- Where a wide character leads to. -/
def beyond : ScanMode → ScanMode
  | .quoted close => .quoted close
  | .lineComment => .lineComment
  | .blockComment | .star => .blockComment
  | _ => .plain

theorem not_isDigit_of_wide {c : Char} (hc : Wide c) : c.isDigit = false := by
  have hnine : '9'.toNat = 57 := rfl
  rw [← Bool.not_eq_true, Char.isDigit_iff_toNat]
  unfold Wide at hc
  omega

theorem start_of_wide {c : Char} (hc : Wide c) : start c = .plain := by
  have hne : ∀ d : Char, ¬Wide d → c ≠ d := fun d hd => hc.ne hd
  simp [start, hne '\'' (by decide), hne '"' (by decide), hne '\x60' (by decide),
    hne '[' (by decide), hne '-' (by decide), hne '/' (by decide), hne '?' (by decide),
    hne '$' (by decide)]

theorem next_of_wide {mode : ScanMode} (hmode : mode.ClosesNarrow) {c : Char} (hc : Wide c) :
    mode.next c = mode.beyond := by
  have hdigit := not_isDigit_of_wide hc
  cases mode with
  | quoted close => exact if_neg (hc.ne hmode)
  | lineComment => exact if_neg (hc.ne (by decide))
  | blockComment => exact if_neg (hc.ne (by decide))
  | star => rw [next, if_neg (hc.ne (by decide)), if_neg (hc.ne (by decide))]; rfl
  | dash => rw [next, if_neg (hc.ne (by decide)), start_of_wide hc]; rfl
  | slash => rw [next, if_neg (hc.ne (by decide)), start_of_wide hc]; rfl
  | plain => exact start_of_wide hc
  | question | dollar | index value => rw [next, hdigit, if_neg (by decide), start_of_wide hc]; rfl

theorem closesNarrow_plain : ScanMode.plain.ClosesNarrow := trivial

theorem closesNarrow_start (c : Char) : (start c).ClosesNarrow := by
  unfold start
  split
  · rename_i hc
    have hnarrow : ¬Wide c := by rcases hc with rfl | rfl | rfl <;> decide
    exact hnarrow
  · split
    · exact (by decide : ¬Wide ']')
    · split_ifs <;> trivial

theorem ClosesNarrow.next {mode : ScanMode} (h : mode.ClosesNarrow) (c : Char) :
    (mode.next c).ClosesNarrow := by
  have hstart := closesNarrow_start c
  cases mode with
  | plain => exact hstart
  | dash | slash | question | dollar | index =>
    rw [ScanMode.next]
    split
    · trivial
    · exact hstart
  | quoted close =>
    rw [ScanMode.next]
    split
    · trivial
    · exact h
  | lineComment | blockComment =>
    rw [ScanMode.next]
    split <;> trivial
  | star =>
    rw [ScanMode.next]
    split_ifs <;> trivial

theorem rawEnds_beyond (mode : ScanMode) (following : Option Char) :
    mode.beyond.rawEnds following = none := by
  unfold rawEnds
  split
  · rfl
  · cases mode <;> rfl

/-- Behind a wide character, more of them change nothing. -/
theorem passes_wide {mode : ScanMode} (hmode : mode.ClosesNarrow) {cs : List Char}
    (hcs : ∀ c ∈ cs, Wide c) : mode.beyond.Passes cs mode.beyond := by
  have hbeyond : mode.beyond.ClosesNarrow := by cases mode <;> exact hmode
  have hself : mode.beyond.beyond = mode.beyond := by cases mode <;> rfl
  induction cs with
  | nil => exact ⟨rfl, rfl⟩
  | cons c cs ih =>
    rw [List.forall_mem_cons] at hcs
    refine .cons (rawEnds_beyond mode _) ?_
    rw [next_of_wide hbeyond hcs.1, hself]
    exact ih hcs.2

/-! ## Bytes for characters -/

theorem rawMarkers_spread {mode : ScanMode} (hmode : mode.ClosesNarrow) (text : List Char) :
    mode.rawMarkers (spread text) = mode.rawMarkers text := by
  induction text generalizing mode with
  | nil => rfl
  | cons c rest ih =>
    rw [Text.spread_cons]
    obtain ⟨-, hc⟩ | ⟨hwide, d, ds, hbytes, hd, hds⟩ := Text.octets_utf8EncodeChar c
    · rw [hc, List.singleton_append, rawMarkers, rawMarkers, ih (hmode.next c)]
    · have hpasses := passes_wide hmode hds
      rw [hbytes, List.cons_append, rawMarkers, next_of_wide hmode hd, rawMarkers_append,
        hpasses.passed, hpasses.after, ← next_of_wide hmode hwide, ih (hmode.next c), rawMarkers,
        rawEnds_of_not_digit mode (not_isDigit_of_wide hd),
        rawEnds_of_not_digit mode (not_isDigit_of_wide hwide)]
      rfl

theorem spread_toString (n : Nat) : spread (toString n).toList = (toString n).toList := by
  refine Text.spread_of_not_wide fun c hc hwide => ?_
  have hdigit := isDigit_of_mem_toDigits (show c ∈ Nat.toDigits 10 n by simpa using hc)
  rw [not_isDigit_of_wide hwide] at hdigit
  cases hdigit

theorem spread_label (mode : ScanMode) (highest : Nat) (following : Option Char) :
    spread (mode.label highest following) = mode.label highest following := by
  unfold label
  split
  · exact spread_toString _
  · rfl

theorem numbered_spread {mode : ScanMode} (hmode : mode.ClosesNarrow) (highest : Nat)
    (text : List Char) :
    mode.numbered highest (spread text) = spread (mode.numbered highest text) := by
  induction text generalizing mode highest with
  | nil => exact (spread_label mode highest none).symm
  | cons c rest ih =>
    rw [Text.spread_cons, numbered, Text.spread_append, spread_label, Text.spread_cons]
    obtain ⟨-, hc⟩ | ⟨hwide, d, ds, hbytes, hd, hds⟩ := Text.octets_utf8EncodeChar c
    · rw [hc, List.singleton_append, numbered, ih (hmode.next c)]
      rfl
    · have hpasses := passes_wide hmode hds
      have hends : mode.rawEnds (some d) = mode.rawEnds (some c) := by
        rw [rawEnds_of_not_digit mode (not_isDigit_of_wide hd),
          rawEnds_of_not_digit mode (not_isDigit_of_wide hwide)]
      rw [hbytes, List.cons_append, numbered, next_of_wide hmode hd, numbered_append,
        hpasses.passed, hpasses.after, hpasses.numberedWithin_eq, ← next_of_wide hmode hwide, hends,
        highestAfter_nil, ih (hmode.next c), label, label, hends]
      rfl

end ScanMode

/-- The bytes of a statement have its markers. -/
theorem rawMarkers_octets (sql : String) :
    ScanMode.plain.rawMarkers (Text.octets (Text.bytes sql)) = rawMarkers sql := by
  rw [Text.octets_bytes, ScanMode.rawMarkers_spread ScanMode.closesNarrow_plain]
  rfl

/-- What is written for the bytes of a statement are the bytes of what is written for it. -/
theorem numbered_octets (highest : Nat) (sql : String) :
    ScanMode.plain.numbered highest (Text.octets (Text.bytes sql)) =
      Text.octets (Text.bytes (numberedFrom highest sql)) := by
  rw [Text.octets_bytes, Text.octets_bytes, ScanMode.numbered_spread ScanMode.closesNarrow_plain,
    toList_numberedFrom]

end SqlStatement
