import SqlStatement.Binary64.Basic
import SqlStatement.Json.Members

/-!
# JSON values

`Json` is a JSON value whose numbers are integers between `-2 ^ 63` and `2 ^ 64 - 1` or finite
binary64 numbers. An object is a list of members; `Members.ofList` puts them into order.
-/

namespace SqlStatement

/-- An integer that a JSON number holds as an integer: from `-2 ^ 63` to below `2 ^ 64`. -/
structure Json.Integer where
  val : Int
  lower : -0x8000000000000000 ≤ val
  upper : val < 0x10000000000000000
  deriving DecidableEq

inductive Json where
  | null
  | bool (value : Bool)
  | int (value : Json.Integer)
  | real (value : FiniteBinary64)
  | str (value : String)
  | arr (items : List Json)
  | obj (members : List (String × Json))
  deriving Inhabited

namespace Json

/-! ## Numbers -/

def ofInt? (n : Int) : Option Json :=
  if h : -0x8000000000000000 ≤ n ∧ n < 0x10000000000000000 then
    some (.int ⟨n, h.1, h.2⟩)
  else none

def ofInt64 (n : Int64) : Json :=
  .int ⟨n.toInt, n.le_toInt, by have := n.toInt_lt; omega⟩

def ofUInt32 (n : UInt32) : Json :=
  .int ⟨n.toNat, by omega, by have := n.toNat_lt; omega⟩

def ofUInt8 (n : UInt8) : Json :=
  .int ⟨n.toNat, by omega, by have := n.toNat_lt; omega⟩

/-- A number that is infinite or a NaN has no JSON form and becomes `null`. -/
def ofBinary64 (x : Binary64) : Json :=
  match FiniteBinary64.ofBinary64? x with
  | some finite => .real finite
  | none => .null

/-- Nothing is `null`. -/
def ofOption {α : Type} (encode : α → Json) : Option α → Json
  | none => .null
  | some a => encode a

end Json

end SqlStatement
