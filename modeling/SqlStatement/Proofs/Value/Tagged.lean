import SqlStatement.Proofs.Binary64.Integers
import SqlStatement.Proofs.Decode.Basic
import SqlStatement.Value.Json

/-!
# The tagged form of values

`Tagged` is the tagged form as a relation between JSON values and values. It is wider than what
`Value.encode` writes: null may be written as an object, and an integer may stand for a real.

* `decode_eq_ok_iff_tagged`: reading accepts the tagged form and nothing else.
* `decode_encode`: what is written is read back, bit by bit, unless it is a real that is not finite.
* `tagged_form_exact`: both together, and that reading and writing once more changes nothing.
-/

namespace SqlStatement.Value

/-- The tagged form of a value. The members of an object count in order, each key once. -/
inductive Tagged : Json → Value → Prop where
  | name : Tagged (.str "Null") .null
  | null {members : Members Json} :
      Members.ofList members = [("Null", .null)] → Tagged (.obj members) .null
  | bool {members : Members Json} (b : Bool) :
      Members.ofList members = [("Bool", .bool b)] → Tagged (.obj members) (.bool b)
  | integer {members : Members Json} (n : Json.Integer) :
      Members.ofList members = [("Integer", .int n)] →
      -0x8000000000000000 ≤ n.val → n.val < 0x8000000000000000 →
      Tagged (.obj members) (.integer (.ofInt n.val))
  | real {members : Members Json} (x : FiniteBinary64) :
      Members.ofList members = [("Real", .real x)] → Tagged (.obj members) (.real x.val)
  /-- An integer stands for the real nearest to it. -/
  | realOfInteger {members : Members Json} (n : Json.Integer) :
      Members.ofList members = [("Real", .int n)] →
      Tagged (.obj members) (.real (.ofInt n.val))
  | text {members : Members Json} (s : String) :
      Members.ofList members = [("Text", .str s)] → Tagged (.obj members) (.text s)
  | blob {members : Members Json} (bytes : List Json.Integer) :
      Members.ofList members = [("Blob", .arr (bytes.map .int))] →
      (∀ n ∈ bytes, 0 ≤ n.val ∧ n.val ≤ 255) →
      Tagged (.obj members) (.blob (bytes.map fun n => .ofNat n.val.toNat))

/-! ## Reading -/

/-- Bytes are integers from 0 to 255. -/
theorem bytes_eq_ok_iff {json : Json} {bytes : List UInt8} :
    (decode json : Except DecodeError (List UInt8)) = .ok bytes ↔
      ∃ numbers : List Json.Integer, json = .arr (numbers.map .int) ∧
        (∀ n ∈ numbers, 0 ≤ n.val ∧ n.val ≤ 255) ∧
        bytes = numbers.map fun n => .ofNat n.val.toNat := by
  rw [Decode.list_eq_ok_iff]
  constructor
  · rintro ⟨items, rfl, h⟩
    induction h with
    | nil => exact ⟨[], by simp⟩
    | cons hitem _ ih =>
      obtain ⟨n, rfl, hlower, hupper, rfl⟩ := Decode.integer_eq_ok_iff.mp hitem
      obtain ⟨numbers, hitems, hrange, rfl⟩ := ih
      cases hitems
      refine ⟨n :: numbers, rfl, ?_, rfl⟩
      simp only [List.mem_cons, forall_eq_or_imp]
      exact ⟨⟨hlower, by omega⟩, hrange⟩
  · rintro ⟨numbers, rfl, hrange, rfl⟩
    refine ⟨_, rfl, ?_⟩
    induction numbers with
    | nil => exact .nil
    | cons n numbers ih =>
      simp only [List.mem_cons, forall_eq_or_imp] at hrange
      obtain ⟨⟨hlower, hupper⟩, hrest⟩ := hrange
      exact .cons (Decode.integer_eq_ok_iff.mpr ⟨n, rfl, hlower, by omega, rfl⟩) (ih hrest)

theorem nodup_names : (variants.map Variant.name).Nodup := by decide

/-- Reading accepts the tagged form and nothing else. -/
theorem decode_eq_ok_iff_tagged {json : Json} {v : Value} :
    decode json = .ok v ↔ Tagged json v := by
  have hread : decode json = .ok v ↔ ∃ variant ∈ variants, variant.Reads json v :=
    Variant.read_eq_ok_iff nodup_names
  rw [hread]
  simp only [variants, List.mem_cons, List.not_mem_nil, or_false, exists_eq_or_imp, exists_eq_left,
    Variant.reads_plain_iff, Variant.reads_holding_iff]
  constructor
  · rintro (⟨rfl, rfl | ⟨members, rfl, h⟩⟩ | ⟨members, inner, a, rfl, h, ha, rfl⟩ |
      ⟨members, inner, a, rfl, h, ha, rfl⟩ | ⟨members, inner, a, rfl, h, ha, rfl⟩ |
      ⟨members, inner, a, rfl, h, ha, rfl⟩ | ⟨members, inner, a, rfl, h, ha, rfl⟩)
    · exact .name
    · exact .null h
    · obtain rfl := Decode.bool_eq_ok_iff.mp ha
      exact .bool a h
    · obtain ⟨n, rfl, hlower, hupper, rfl⟩ := Decode.integer_eq_ok_iff.mp ha
      exact .integer n h hlower hupper
    · obtain ⟨x, rfl, rfl⟩ | ⟨n, rfl, rfl⟩ := Decode.binary64_eq_ok_iff.mp ha
      · exact .real x h
      · exact .realOfInteger n h
    · obtain rfl := Decode.string_eq_ok_iff.mp ha
      exact .text a h
    · obtain ⟨numbers, rfl, hrange, rfl⟩ := bytes_eq_ok_iff.mp ha
      exact .blob numbers h hrange
  · rintro (_ | h | ⟨b, h⟩ | ⟨n, h, hlower, hupper⟩ | ⟨x, h⟩ | ⟨n, h⟩ | ⟨s, h⟩ |
      ⟨numbers, h, hrange⟩)
    · exact .inl ⟨rfl, .inl rfl⟩
    · exact .inl ⟨rfl, .inr ⟨_, rfl, h⟩⟩
    · exact .inr (.inl ⟨_, _, b, rfl, h, rfl, rfl⟩)
    · exact .inr (.inr (.inl ⟨_, _, _, rfl, h,
        Decode.integer_eq_ok_iff.mpr ⟨n, rfl, hlower, hupper, rfl⟩, rfl⟩))
    · exact .inr (.inr (.inr (.inl ⟨_, _, _, rfl, h, rfl, rfl⟩)))
    · exact .inr (.inr (.inr (.inl ⟨_, _, _, rfl, h, rfl, rfl⟩)))
    · exact .inr (.inr (.inr (.inr (.inl ⟨_, _, _, rfl, h, rfl, rfl⟩))))
    · exact .inr (.inr (.inr (.inr (.inr ⟨_, _, _, rfl, h,
        bytes_eq_ok_iff.mpr ⟨numbers, rfl, hrange, rfl⟩, rfl⟩))))

example : (decode (.obj [("Null", .null)]) : Except DecodeError Value) = .ok .null := by rfl

/-! ## Reading what was written -/

/-- The value is no infinity and no NaN. -/
def IsWritable (v : Value) : Prop := ∀ x, v = .real x → x.isFinite = true

theorem decode_member {β : Type} [Decode β] {name : String} {make : β → Value} {inner : Json}
    {b : β} (hmem : Variant.holding name make ∈ variants) (hinner : decode inner = .ok b) :
    decode (.obj [(name, inner)]) = .ok (make b) :=
  (Variant.read_eq_ok_iff nodup_names).mpr
    ⟨_, hmem, Variant.reads_holding_iff.mpr ⟨_, inner, b, rfl, rfl, hinner, rfl⟩⟩

theorem decode_encode {v : Value} (h : v.IsWritable) : decode v.encode = .ok v := by
  cases v with
  | null => rfl
  | bool b => exact decode_member (by simp [variants]) (Decode.bool_eq_ok_iff.mpr rfl)
  | integer n => exact decode_member (by simp [variants]) (Decode.decode_ofInt64 n)
  | real x => exact decode_member (by simp [variants]) (Decode.decode_ofBinary64 (h x rfl))
  | text s => exact decode_member (by simp [variants]) (Decode.string_eq_ok_iff.mpr rfl)
  | blob bytes =>
    exact decode_member (by simp [variants]) (Decode.decode_arr_map Decode.decode_ofUInt8 bytes)

/-- A real that is not finite is written as `null`, which is no number. -/
theorem decode_encode_of_not_isFinite {x : Binary64} (h : x.isFinite = false) :
    (decode (Value.real x).encode : Except DecodeError Value) =
      .error (.invalidType .null .float64) := by
  have hnull : Json.ofBinary64 x = .null := by
    rw [Json.ofBinary64, (FiniteBinary64.ofBinary64?_eq_none_iff x).mpr h]
  rw [encode, hnull]
  rfl

/-- What is read is never an infinity or a NaN. -/
theorem Tagged.isWritable {json : Json} {v : Value} (h : Tagged json v) : v.IsWritable := by
  rintro x rfl
  cases h with
  | real y => exact y.property
  | realOfInteger n => exact Binary64.isFinite_ofInt n

/-- **The tagged form is exact.** What is written is read back with every bit, and a real that is
not finite is refused when it is read back. Reading accepts the tagged form and nothing else, and
what it reads is read back once more. -/
theorem tagged_form_exact :
    (∀ v : Value, (∀ x, v = .real x → x.isFinite = true) → decode v.encode = .ok v) ∧
      (∀ x : Binary64, x.isFinite = false →
        (decode (Value.real x).encode : Except DecodeError Value) =
          .error (.invalidType .null .float64)) ∧
      (∀ (json : Json) (v : Value), decode json = .ok v ↔ Tagged json v) ∧
      ∀ (json : Json) (v : Value), decode json = .ok v → decode v.encode = .ok v := by
  refine ⟨fun v hv => decode_encode hv, fun x hx => decode_encode_of_not_isFinite hx,
    fun json v => decode_eq_ok_iff_tagged, fun json v hread => ?_⟩
  exact decode_encode (decode_eq_ok_iff_tagged.mp hread).isWritable

end SqlStatement.Value
