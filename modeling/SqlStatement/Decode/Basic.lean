import SqlStatement.Binary64.Rounding
import SqlStatement.Decode.Error

/-!
# Reading JSON values

`Decode α` reads an `α` from a JSON value. A value of the wrong kind is refused before its
range is looked at; an integer stands for a real, but a real never for an integer. The members of
an object are read in ascending order of their keys, each key once, so the first failing key in
that order gives the error (`Decode.members`).
-/

namespace SqlStatement

class Decode (α : Type) where
  decode : Json → Except DecodeError α

export Decode (decode)

namespace Decode

def wrongType {α : Type} (json : Json) (wanted : Wanted) : Except DecodeError α :=
  .error (.invalidType (Found.ofJson json) wanted)

/-- An integer from `lower` to below `upper`. -/
def integer {α : Type} (wanted : Wanted) (lower upper : Int) (make : Int → α) :
    Json → Except DecodeError α
  | .int n =>
    if lower ≤ n.val ∧ n.val < upper then .ok (make n.val)
    else .error (.invalidValue (.integer n) wanted)
  | json => wrongType json wanted

instance : Decode Int64 :=
  ⟨integer .int64 (-0x8000000000000000) 0x8000000000000000 Int64.ofInt⟩

instance : Decode Int32 := ⟨integer .int32 (-0x80000000) 0x80000000 Int32.ofInt⟩

instance : Decode UInt32 :=
  ⟨integer .uint32 0 0x100000000 fun n => UInt32.ofNat n.toNat⟩

instance : Decode UInt8 := ⟨integer .uint8 0 0x100 fun n => UInt8.ofNat n.toNat⟩

instance : Decode Binary64 where
  decode
    | .real x => .ok x.val
    | .int n => .ok (Binary64.ofInt n.val)
    | json => wrongType json .float64

instance : Decode String where
  decode
    | .str s => .ok s
    | json => wrongType json .text

instance : Decode Bool where
  decode
    | .bool b => .ok b
    | json => wrongType json .boolean

/-- `null` is nothing; anything else is read as an `α`. -/
instance {α : Type} [Decode α] : Decode (Option α) where
  decode
    | .null => .ok none
    | json => (decode json).map some

/-- The first element that fails gives the error. -/
instance {α : Type} [Decode α] : Decode (List α) where
  decode
    | .arr items => items.mapM decode
    | json => wrongType json .sequence

/-- The values of an object, under their keys in ascending order. -/
instance {α : Type} [Decode α] : Decode (Members α) where
  decode
    | .obj members => (Members.ofList members).mapM fun (key, json) =>
        (decode json).map fun value => (key, value)
    | json => wrongType json .map

/-- Any value is itself, its outermost members in ascending order. -/
instance : Decode Json where
  decode
    | .obj members => .ok (.obj (Members.ofList members))
    | json => .ok json

end Decode

end SqlStatement
