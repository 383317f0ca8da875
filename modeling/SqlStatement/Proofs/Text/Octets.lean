import Mathlib.Data.List.Basic
import Mathlib.Tactic.SplitIfs
import SqlStatement.Text.Bytes

/-!
# Bytes as characters

The bytes of a text can be read as characters of their own (`octets`). An ASCII character is one
byte and reads as itself; the bytes of any other character are all `Wide`, so none of them is taken
for an ASCII character (`octets_utf8EncodeChar`).
-/

namespace SqlStatement.Text

/-- Bytes, each as a character of its own. -/
def octets (bytes : List UInt8) : List Char := bytes.map Char.ofUInt8

/-- A character that is not ASCII. -/
def Wide (c : Char) : Prop := 128 ≤ c.toNat

instance (c : Char) : Decidable (Wide c) := inferInstanceAs (Decidable (_ ≤ _))

theorem Wide.ne {c d : Char} (hc : Wide c) (hd : ¬Wide d) : c ≠ d := by
  rintro rfl
  exact hd hc

theorem ofUInt8_inj {a b : UInt8} (h : Char.ofUInt8 a = Char.ofUInt8 b) : a = b := by
  have hval : a.toUInt32 = b.toUInt32 := congrArg Char.val h
  have hnat := congrArg UInt32.toNat hval
  simpa [UInt8.toNat_inj] using hnat

theorem octets_inj {as bs : List UInt8} : octets as = octets bs ↔ as = bs :=
  (List.map_injective_iff.mpr fun _ _ => ofUInt8_inj).eq_iff

theorem octets_nil : octets [] = [] := rfl

theorem octets_append (as bs : List UInt8) : octets (as ++ bs) = octets as ++ octets bs :=
  List.map_append

theorem toNat_ofUInt8 (b : UInt8) : (Char.ofUInt8 b).toNat = b.toNat :=
  UInt8.toNat_toUInt32 b

theorem ofUInt8_toUInt8 {c : Char} (hc : ¬Wide c) : Char.ofUInt8 c.toUInt8 = c := by
  unfold Wide Char.toNat at hc
  apply Char.ext
  apply UInt32.toNat_inj.mp
  refine (toNat_ofUInt8 c.toUInt8).trans ?_
  change c.val.toUInt8.toNat = c.val.toNat
  rw [UInt32.toNat_toUInt8]
  omega

/-- A byte reads as an ASCII character exactly if it is its byte. -/
theorem ofUInt8_eq_iff {b : UInt8} {c : Char} (hc : ¬Wide c) :
    Char.ofUInt8 b = c ↔ b = c.toUInt8 := by
  constructor
  · intro h
    exact ofUInt8_inj (h.trans (ofUInt8_toUInt8 hc).symm)
  · rintro rfl
    exact ofUInt8_toUInt8 hc

theorem head?_octets_eq_some_iff {bytes : List UInt8} {c : Char} (hc : ¬Wide c) :
    (octets bytes).head? = some c ↔ bytes.head? = some c.toUInt8 := by
  cases bytes with
  | nil => simp [octets]
  | cons b bytes => simp [octets, ofUInt8_eq_iff hc]

/-- An ASCII character is one byte, and all bytes of another character are wide. -/
theorem octets_utf8EncodeChar (c : Char) :
    ¬Wide c ∧ octets (String.utf8EncodeChar c) = [c] ∨
      Wide c ∧ ∃ d ds, octets (String.utf8EncodeChar c) = d :: ds ∧ Wide d ∧ ∀ e ∈ ds, Wide e := by
  unfold String.utf8EncodeChar
  simp only
  split_ifs with hone
  · have hc : ¬Wide c := by
      unfold Wide Char.toNat
      omega
    refine .inl ⟨hc, ?_⟩
    have hval : (Char.ofUInt8 (UInt8.ofNat c.val.toNat)).val = c.val := by
      apply UInt32.toNat_inj.mp
      refine (toNat_ofUInt8 _).trans ?_
      rw [UInt8.toNat_ofNat']
      omega
    rw [octets, List.map_singleton, Char.ext hval]
  all_goals
    have hwide : Wide c := by
      unfold Wide Char.toNat
      omega
    refine .inr ⟨hwide, _, _, rfl, ?_⟩
    simp only [Wide, List.map_cons, List.map_nil, List.forall_mem_cons, toNat_ofUInt8,
      UInt8.toNat_ofNat', List.not_mem_nil, false_imp_iff, implies_true, and_true]
    omega

/-- The characters of a text, each as its bytes. -/
def spread (text : List Char) : List Char :=
  text.flatMap fun c => octets (String.utf8EncodeChar c)

theorem octets_bytes (text : String) : octets (bytes text) = spread text.toList := by
  rw [bytes_eq_flatMap, octets, List.map_flatMap]
  rfl

theorem spread_cons (c : Char) (rest : List Char) :
    spread (c :: rest) = octets (String.utf8EncodeChar c) ++ spread rest := rfl

theorem spread_append (s t : List Char) : spread (s ++ t) = spread s ++ spread t :=
  List.flatMap_append

/-- ASCII text stays as it is. -/
theorem spread_of_not_wide {text : List Char} (h : ∀ c ∈ text, ¬Wide c) : spread text = text := by
  induction text with
  | nil => rfl
  | cons c rest ih =>
    obtain ⟨-, hc⟩ | ⟨hwide, -⟩ := octets_utf8EncodeChar c
    · rw [spread_cons, hc, ih fun d hd => h d (List.mem_cons_of_mem _ hd)]
      rfl
    · exact absurd hwide (h c List.mem_cons_self)

end SqlStatement.Text
