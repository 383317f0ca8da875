import SqlStatement.Marker.Walk
import SqlStatement.Proofs.Text.Octets

/-!
# Between two characters

Where a text may be cut. An offset lies on a boundary if the text before it is a text
(`onBoundary_iff`); there is one on either side of an ASCII byte (`onBoundary_of_ascii`). Between
two boundaries a text can be cut, and the piece has the bytes that stand there (`cut_spec`).
-/

namespace SqlStatement.Text

theorem length_bytes (text : String) : (bytes text).length = text.utf8ByteSize := by
  rw [bytes, Array.length_toList]
  exact String.size_toByteArray

theorem onBoundary_iff {text : String} {offset : Nat} :
    OnBoundary text offset ↔ ∃ s t, text = s ++ t ∧ offset = (bytes s).length := by
  simp only [OnBoundary, String.Pos.Raw.isValid_iff_exists_append, length_bytes,
    String.Pos.Raw.ext_iff]
  rfl

theorem onBoundary_zero (text : String) : OnBoundary text 0 :=
  onBoundary_iff.mpr ⟨"", text, by simp, rfl⟩

theorem onBoundary_end (text : String) : OnBoundary text (bytes text).length :=
  onBoundary_iff.mpr ⟨text, "", by simp, rfl⟩

theorem OnBoundary.le {text : String} {offset : Nat} (h : OnBoundary text offset) :
    offset ≤ (bytes text).length := by
  obtain ⟨s, t, rfl, rfl⟩ := onBoundary_iff.mp h
  simp [bytes_append]

/-- A piece between two boundaries can be cut out. -/
theorem cut_spec {text : String} {first last : Nat} (hfirst : OnBoundary text first)
    (hlast : OnBoundary text last) (hle : first ≤ last) :
    ∃ piece, cut text first last = .ok piece ∧
      bytes piece = ((bytes text).drop first).take (last - first) := by
  have hsize : last ≤ text.utf8ByteSize := length_bytes text ▸ hlast.le
  rw [cut, if_pos ⟨hle, hsize⟩, dif_pos ⟨hfirst, hlast⟩]
  refine ⟨_, rfl, ?_⟩
  rw [bytes, String.toUTF8_eq_toByteArray, String.toByteArray_extract, ByteArray.data_extract,
    Array.toList_extract, List.extract_eq_take_drop]
  rfl

/-- An ASCII byte is a character of its own. -/
theorem exists_append_of_ascii {text : List Char} {offset : Nat} {b : UInt8}
    (hb : (text.flatMap String.utf8EncodeChar)[offset]? = some b) (hascii : b.toNat < 128) :
    ∃ front c back, text = front ++ c :: back ∧
      (front.flatMap String.utf8EncodeChar).length = offset ∧ String.utf8EncodeChar c = [b] := by
  induction text generalizing offset with
  | nil => simp at hb
  | cons c rest ih =>
    rw [List.flatMap_cons] at hb
    by_cases hoffset : offset < (String.utf8EncodeChar c).length
    · rw [List.getElem?_append_left hoffset] at hb
      obtain ⟨-, hone⟩ | ⟨-, d, ds, hbytes, hd, hds⟩ := octets_utf8EncodeChar c
      · obtain ⟨a, ha, -⟩ := List.map_eq_singleton_iff.mp hone
        rw [ha, List.length_singleton, Nat.lt_one_iff] at hoffset
        subst hoffset
        rw [ha, List.getElem?_cons_zero, Option.some_inj] at hb
        exact ⟨[], c, rest, rfl, rfl, hb ▸ ha⟩
      · -- All bytes of any other character are wide.
        have hmem : Char.ofUInt8 b ∈ d :: ds :=
          hbytes ▸ List.mem_map_of_mem (List.mem_of_getElem? hb)
        have hwide : Wide (Char.ofUInt8 b) := List.forall_mem_cons.mpr ⟨hd, hds⟩ _ hmem
        rw [Wide, toNat_ofUInt8] at hwide
        omega
    · rw [List.getElem?_append_right (Nat.le_of_not_lt hoffset)] at hb
      obtain ⟨front, d, back, rfl, hlength, hd⟩ := ih hb
      refine ⟨c :: front, d, back, rfl, ?_, hd⟩
      rw [List.flatMap_cons, List.length_append, hlength]
      omega

/-- On either side of an ASCII byte there is a boundary. -/
theorem onBoundary_of_ascii {text : String} {offset : Nat} {b : UInt8}
    (hb : (bytes text)[offset]? = some b) (hascii : b.toNat < 128) :
    OnBoundary text offset ∧ OnBoundary text (offset + 1) := by
  rw [bytes_eq_flatMap] at hb
  obtain ⟨front, c, back, htext, hlength, hc⟩ := exists_append_of_ascii hb hascii
  constructor
  · refine onBoundary_iff.mpr ⟨String.ofList front, String.ofList (c :: back), ?_, ?_⟩
    · rw [← String.ofList_append, ← htext, String.ofList_toList]
    · rw [bytes_eq_flatMap, String.toList_ofList, hlength]
  · refine onBoundary_iff.mpr ⟨String.ofList (front ++ [c]), String.ofList back, ?_, ?_⟩
    · rw [← String.ofList_append, List.append_assoc, List.singleton_append, ← htext,
        String.ofList_toList]
    · rw [bytes_eq_flatMap, String.toList_ofList, List.flatMap_append, List.length_append, hlength,
        List.flatMap_singleton, hc]
      rfl

end SqlStatement.Text
