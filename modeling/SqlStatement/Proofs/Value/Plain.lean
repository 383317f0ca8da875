import SqlStatement.Proofs.Decode.Basic
import SqlStatement.Value.Json

/-!
# The plain form of values

The plain form `Value.toJson` tells values apart, except that null and the reals that are not finite
all become `null` (`Value.WritesNull`): from any other plain form the value is read back
(`ofPlain?_toJson`). Main statement: `toJson_eq_toJson_iff`.
-/

namespace SqlStatement.Value

/-- Null, an infinity or a NaN. -/
def WritesNull (v : Value) : Prop := v = .null ∨ ∃ x, v = .real x ∧ x.isFinite = false

theorem toJson_of_isFinite {x : Binary64} (h : x.isFinite = true) :
    (Value.real x).toJson = .real ⟨x, h⟩ := by
  simp [toJson, Json.ofBinary64, FiniteBinary64.ofBinary64?, h]

theorem toJson_of_not_isFinite {x : Binary64} (h : x.isFinite = false) :
    (Value.real x).toJson = .null := by
  rw [toJson, Json.ofBinary64, (FiniteBinary64.ofBinary64?_eq_none_iff x).mpr h]

theorem toJson_of_writesNull {v : Value} (h : v.WritesNull) : v.toJson = .null := by
  rcases h with rfl | ⟨x, rfl, hx⟩
  · rfl
  · exact toJson_of_not_isFinite hx

/-- A real that is not `null` in the plain form is finite. -/
theorem isFinite_of_not_writesNull {x : Binary64} (h : ¬(Value.real x).WritesNull) :
    x.isFinite = true := by
  rw [← Bool.not_eq_false]
  exact fun hx => h (.inr ⟨x, rfl, hx⟩)

/-- The value of a plain form that is not `null`. -/
def ofPlain? : Json → Option Value
  | .bool b => some (.bool b)
  | .int n => some (.integer (Int64.ofInt n.val))
  | .real x => some (.real x.val)
  | .str s => some (.text s)
  | .arr items => (decode (.arr items) : Except DecodeError (List UInt8)).toOption.map .blob
  | _ => none

theorem ofPlain?_toJson {v : Value} (h : ¬v.WritesNull) : ofPlain? v.toJson = some v := by
  cases v with
  | null => exact absurd (.inl rfl) h
  | bool b => rfl
  | integer n => simp [toJson, Json.ofInt64, ofPlain?]
  | real x => rw [toJson_of_isFinite (isFinite_of_not_writesNull h)]; rfl
  | text s => rfl
  | blob bytes =>
    have hread := Decode.decode_arr_map Decode.decode_ofUInt8 bytes
    rw [toJson, ofPlain?, hread]
    rfl

theorem toJson_eq_null_iff {v : Value} : v.toJson = .null ↔ v.WritesNull := by
  constructor
  · intro h
    by_contra hv
    have hread := ofPlain?_toJson hv
    rw [h] at hread
    cases hread
  · exact toJson_of_writesNull

/-- The plain form keeps everything but the difference of null and the reals that are not finite. -/
theorem toJson_eq_toJson_iff {v w : Value} :
    v.toJson = w.toJson ↔ v = w ∨ v.WritesNull ∧ w.WritesNull := by
  constructor
  · intro h
    by_cases hv : v.WritesNull
    · rw [toJson_of_writesNull hv, eq_comm] at h
      exact .inr ⟨hv, toJson_eq_null_iff.mp h⟩
    · have hw : ¬w.WritesNull := by rwa [← toJson_eq_null_iff, ← h, toJson_eq_null_iff]
      have hread := ofPlain?_toJson hv
      rw [h, ofPlain?_toJson hw] at hread
      exact .inl (Option.some.inj hread).symm
  · rintro (rfl | ⟨hv, hw⟩)
    · rfl
    · rw [toJson_of_writesNull hv, toJson_of_writesNull hw]

end SqlStatement.Value
