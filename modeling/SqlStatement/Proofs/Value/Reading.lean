import SqlStatement.Proofs.Value.Plain

/-!
# Reading values through their plain form

A reader that wants an integer, a text or an optional text is given the plain form of a value. What
it makes of it is a view of the value (`integer?`, `asText?`, `optionalText?`), and what the view
does not show is refused as a value of another kind (`ReadsAs`).
-/

namespace SqlStatement.Value

variable {α : Type}

def integer? : Value → Option Int64
  | .integer n => some n
  | _ => none

/-- A text, or nothing from what is `null` in the plain form. -/
def optionalText? : Value → Option (Option String)
  | .null => some none
  | .real x => if x.isFinite then none else some none
  | .text s => some (some s)
  | _ => none

theorem integer?_eq_some_iff {v : Value} {n : Int64} : v.integer? = some n ↔ v = .integer n := by
  cases v <;> simp [integer?]

theorem asText?_eq_some_iff {v : Value} {s : String} : v.asText? = some s ↔ v = .text s := by
  cases v <;> simp [asText?]

theorem optionalText?_eq_some_some_iff {v : Value} {s : String} :
    v.optionalText? = some (some s) ↔ v = .text s := by
  cases v <;> simp [optionalText?]

theorem optionalText?_eq_some_none_iff {v : Value} :
    v.optionalText? = some none ↔ v.WritesNull := by
  cases v <;> simp [optionalText?, WritesNull]

theorem isSome_integer?_iff {v : Value} : v.integer?.isSome = true ↔ ∃ n, v = .integer n := by
  simp only [Option.isSome_iff_exists, integer?_eq_some_iff]

theorem isSome_asText?_iff {v : Value} : v.asText?.isSome = true ↔ ∃ s, v = .text s := by
  simp only [Option.isSome_iff_exists, asText?_eq_some_iff]

theorem isSome_optionalText?_iff {v : Value} :
    v.optionalText?.isSome = true ↔ (∃ s, v = .text s) ∨ v.WritesNull := by
  simp only [Option.isSome_iff_exists, Option.exists, optionalText?_eq_some_none_iff,
    optionalText?_eq_some_some_iff, or_comm]

/-- The error with which a value is refused that the view does not show. -/
def refusedAs (view : Value → Option α) (wanted : Wanted) (v : Value) : Option DecodeError :=
  match view v with
  | some _ => none
  | none => some (.invalidType (Found.ofJson v.toJson) wanted)

/-- Reading a plain form as an `α` gives what the view shows, and what it does not show is refused
as a value of another kind. -/
def ReadsAs [Decode α] (view : Value → Option α) (wanted : Wanted) : Prop :=
  ∀ v, decode v.toJson =
    match view v with
    | some a => .ok a
    | none => .error (.invalidType (Found.ofJson v.toJson) wanted)

theorem readsAs_integer? : ReadsAs integer? .int64 := by
  intro v
  cases v with
  | integer n => exact Decode.decode_ofInt64 n
  | real x =>
    cases h : x.isFinite with
    | true => rw [toJson_of_isFinite h]; rfl
    | false => rw [toJson_of_not_isFinite h]; rfl
  | _ => rfl

theorem readsAs_asText? : ReadsAs asText? .text := by
  intro v
  cases v with
  | real x =>
    cases h : x.isFinite with
    | true => rw [toJson_of_isFinite h]; rfl
    | false => rw [toJson_of_not_isFinite h]; rfl
  | _ => rfl

theorem readsAs_optionalText? : ReadsAs optionalText? .text := by
  intro v
  cases v with
  | real x =>
    cases h : x.isFinite with
    | true => rw [toJson_of_isFinite h, optionalText?, h]; rfl
    | false => rw [toJson_of_not_isFinite h, optionalText?, h]; rfl
  | _ => rfl

section ReadsAs

variable [Decode α] {view : Value → Option α} {wanted : Wanted} {v : Value}

theorem ReadsAs.decode_eq_ok_iff (h : ReadsAs view wanted) {a : α} :
    decode v.toJson = .ok a ↔ view v = some a := by
  rw [h v]
  cases view v <;> simp

theorem ReadsAs.decode_eq_error_iff (h : ReadsAs view wanted) {e : DecodeError} :
    (decode v.toJson : Except DecodeError α) = .error e ↔ v.refusedAs view wanted = some e := by
  rw [h v, refusedAs]
  cases view v <;> simp

omit [Decode α] in
theorem refusedAs_eq_none_iff : v.refusedAs view wanted = none ↔ (view v).isSome = true := by
  rw [refusedAs]
  cases view v <;> simp

end ReadsAs

end SqlStatement.Value
