import SqlStatement.Json.Printer
import SqlStatement.Text.Quoted

/-!
# Why a JSON value is refused

A `DecodeError` is a cause; `DecodeError.message` is its wording. `Found` says what a decoder met
and `Wanted` what it can take.
-/

namespace SqlStatement

inductive Found where
  | null
  | boolean (value : Bool)
  | integer (value : Json.Integer)
  | real (value : FiniteBinary64)
  | text (value : String)
  | sequence
  | map
  /-- The bare name of a variant. -/
  | unitVariant

namespace Found

def ofJson : Json → Found
  | .null => .null
  | .bool b => .boolean b
  | .int n => .integer n
  | .real x => .real x
  | .str s => .text s
  | .arr _ => .sequence
  | .obj _ => .map

def message : Found → String
  | .null => "null"
  | .boolean b => "boolean `" ++ (if b then "true" else "false") ++ "`"
  | .integer n => "integer `" ++ toString n.val ++ "`"
  | .real x => "floating point `" ++ Json.realText x ++ "`"
  | .text s => "string " ++ Text.quoted s
  | .sequence => "sequence"
  | .map => "map"
  | .unitVariant => "unit variant"

end Found

inductive Wanted where
  | int64
  | int32
  | uint32
  | uint8
  | float64
  | text
  | boolean
  | sequence
  | map
  | unit
  | textOrMap
  | singleKeyMap
  | variantWithContent
  /-- A record, by its type's name. -/
  | record (name : String)
  deriving DecidableEq

def Wanted.message : Wanted → String
  | .int64 => "i64"
  | .int32 => "i32"
  | .uint32 => "u32"
  | .uint8 => "u8"
  | .float64 => "f64"
  | .text => "a string"
  | .boolean => "a boolean"
  | .sequence => "a sequence"
  | .map => "a map"
  | .unit => "unit"
  | .textOrMap => "string or map"
  | .singleKeyMap => "map with a single key"
  | .variantWithContent => "newtype variant"
  | .record name => "struct " ++ name

inductive DecodeError where
  /-- A value of another kind. -/
  | invalidType (found : Found) (wanted : Wanted)
  /-- A value of the right kind that is out of range. -/
  | invalidValue (found : Found) (wanted : Wanted)
  | missingField (name : String)
  | unknownVariant (name : String) (known : List String)
  /-- An array of this length has more elements than the record has fields. -/
  | excessElements (length : Nat)
  /-- None of the forms of this choice fits. -/
  | noAlternative (choice : String)
  /-- Any other cause, in its own words, with the texts of what lies behind it. -/
  | other (text : String) (sources : List String)

namespace DecodeError

private def ticked (name : String) : String := "`" ++ name ++ "`"

/-- Two names are joined by "or"; more are listed. -/
def oneOf : List String → String
  | [name] => ticked name
  | [first, second] => ticked first ++ " or " ++ ticked second
  | names => "one of " ++ ", ".intercalate (names.map ticked)

def message : DecodeError → String
  | .invalidType found wanted =>
    "invalid type: " ++ found.message ++ ", expected " ++ wanted.message
  | .invalidValue found wanted =>
    "invalid value: " ++ found.message ++ ", expected " ++ wanted.message
  | .missingField name => "missing field " ++ ticked name
  | .unknownVariant name known => "unknown variant " ++ ticked name ++ ", expected " ++ oneOf known
  | .excessElements length =>
    "invalid length " ++ toString length ++ ", expected fewer elements in array"
  | .noAlternative choice => "data did not match any variant of untagged enum " ++ choice
  | .other text _ => text

/-- The display texts of what lies behind the cause, from the nearest on. -/
def sources : DecodeError → List String
  | .other _ sources => sources
  | _ => []

end DecodeError

end SqlStatement
