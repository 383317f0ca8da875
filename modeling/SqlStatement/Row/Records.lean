import SqlStatement.Decode.Record
import SqlStatement.Row.Json

/-!
# Records that rows are read as

The engine has no booleans, so a field that holds one can be read from an integer as well
(`Truth`). Besides, the module has two records that rows are read as, one with a field that may be
absent (`User`) and one with truths (`Account`).

A field that is missing is reported only after every member was read, in declared order.
-/

namespace SqlStatement

/-! ## Booleans that are stored as integers -/

/-- A boolean, read from a boolean or from an integer, where 0 is false. -/
structure Truth where
  holds : Bool
  deriving DecidableEq

instance : Decode Truth where
  decode json :=
    match (decode json : Except DecodeError Bool), (decode json : Except DecodeError Int64) with
    | .ok b, _ => .ok ⟨b⟩
    | .error _, .ok n => .ok ⟨n != 0⟩
    | .error _, .error _ => .error (.noAlternative "Flag")

namespace Field

/-- Reads the record `name` from an object, through a draft of its fields. -/
def record {δ α : Type} (name : String) (fields : List (Field δ)) (draft : δ)
    (finish : δ → Except DecodeError α) : Json → Except DecodeError α
  | .obj members => readMembers fields draft members >>= finish
  | json => Decode.wrongType json (.record name)

end Field

/-! ## Records -/

/-- A nickname that is missing is the same as none. -/
structure User where
  id : Int64
  name : String
  nickname : Option String
  deriving DecidableEq

structure User.Draft where
  id : Option Int64
  name : Option String
  nickname : Option String

namespace User

def fields : List (Field Draft) :=
  [ .of "id" fun id draft => { draft with id := some id },
    .of "name" fun name draft => { draft with name := some name },
    .of "nickname" fun nickname draft => { draft with nickname } ]

def Draft.finish (draft : Draft) : Except DecodeError User := do
  let id ← Field.required "id" draft.id
  let name ← Field.required "name" draft.name
  return ⟨id, name, draft.nickname⟩

instance : Decode User :=
  ⟨Field.record "User" fields ⟨none, none, none⟩ Draft.finish⟩

end User

/-- Two booleans that may be stored as integers. -/
structure Account where
  active : Bool
  verified : Bool
  deriving DecidableEq

namespace Account

structure Draft where
  active : Option Bool
  verified : Option Bool

def fields : List (Field Draft) :=
  [ .of "active" fun (active : Truth) draft => { draft with active := some active.holds },
    .of "verified" fun (verified : Truth) draft => { draft with verified := some verified.holds } ]

def Draft.finish (draft : Draft) : Except DecodeError Account := do
  let active ← Field.required "active" draft.active
  let verified ← Field.required "verified" draft.verified
  return ⟨active, verified⟩

instance : Decode Account :=
  ⟨Field.record "Account" fields ⟨none, none⟩ Draft.finish⟩

end Account

end SqlStatement
