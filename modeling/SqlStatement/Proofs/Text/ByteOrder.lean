import Mathlib.Data.List.Lex
import Mathlib.Tactic.SplitIfs
import SqlStatement.Text.Bytes

/-!
# The order of texts by their bytes

Texts are ordered by their characters and these by their code points. UTF-8 is made so that the
bytes give the same order (`bytes_lt_iff`): of two different characters the smaller one has the
smaller bytes, whatever follows (`utf8EncodeChar_append_lt`).
-/

namespace SqlStatement.Text

/-- The digits of a code point to the base 64, which are spread over the bytes. -/
theorem eq_digits {n : Nat} (h : n < 0x200000) :
    n = 262144 * (n / 262144 % 8) + 4096 * (n / 4096 % 64) + 64 * (n / 64 % 64) + n % 64 := by
  omega

theorem utf8EncodeChar_append_lt {c d : Char} (h : c < d) (s t : List UInt8) :
    String.utf8EncodeChar c ++ s < String.utf8EncodeChar d ++ t := by
  have hlt : c.val.toNat < d.val.toNat := by
    simpa [Char.lt_def, UInt32.lt_iff_toNat_lt] using h
  have hd : d.val.toNat < 0x200000 := by
    have hvalid := d.valid
    simp only [UInt32.isValidChar, Nat.isValidChar] at hvalid
    omega
  unfold String.utf8EncodeChar
  simp only
  generalize c.val.toNat = m at *
  generalize d.val.toNat = n at *
  -- A longer encoding has the larger first byte; of two that are as long, the digits decide.
  split_ifs <;> try omega
  all_goals
    simp (disch := omega) only [List.cons_append, List.cons_lt_cons_iff, UInt8.lt_iff_toNat_lt,
      ← UInt8.toNat_inj, UInt8.toNat_ofNat', Nat.mod_eq_of_lt]
    have hm := eq_digits (Nat.lt_trans hlt hd)
    have hn := eq_digits hd
    omega

theorem append_lt_append_left_iff (front s t : List UInt8) : front ++ s < front ++ t ↔ s < t := by
  induction front with
  | nil => rfl
  | cons b front ih => simp [ih]

/-- The order of code points is the order of bytes. -/
theorem flatMap_utf8EncodeChar_lt_iff (s t : List Char) :
    s.flatMap String.utf8EncodeChar < t.flatMap String.utf8EncodeChar ↔ s < t := by
  induction s generalizing t with
  | nil =>
    cases t with
    | nil => simp
    | cons d t =>
      obtain ⟨b, bs, hd⟩ := List.exists_cons_of_ne_nil (String.utf8EncodeChar_ne_nil (c := d))
      simp [hd]
  | cons c s ih =>
    cases t with
    | nil => simp
    | cons d t =>
      rw [List.flatMap_cons, List.flatMap_cons, List.cons_lt_cons_iff]
      rcases Std.lt_trichotomy c d with hlt | rfl | hgt
      · simp [hlt, utf8EncodeChar_append_lt hlt]
      · simp only [append_lt_append_left_iff, ih, Char.lt_irrefl, true_and, false_or]
      · have hbytes := utf8EncodeChar_append_lt hgt (t.flatMap String.utf8EncodeChar)
          (s.flatMap String.utf8EncodeChar)
        simp [List.lt_asymm hbytes, Char.lt_asymm hgt, (Char.ne_of_lt hgt).symm]

/-- Texts are ordered like their bytes. -/
theorem bytes_lt_iff {s t : String} : bytes s < bytes t ↔ s < t := by
  rw [bytes_eq_flatMap, bytes_eq_flatMap, flatMap_utf8EncodeChar_lt_iff, String.lt_iff]

end SqlStatement.Text
