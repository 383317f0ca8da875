import SqlStatement.Decode.Variant
import SqlStatement.Value.Basic

/-!
# Values as JSON

A value has two JSON forms. The plain form `Value.toJson` is for readers: text as a text, a blob as
the array of its bytes, a real that is not finite as `null`. The tagged form `Value.encode` keeps
the variant, as an object whose one member holds the content under the variant's name, or as the
name alone; `Value` has a decoder for it.
-/

namespace SqlStatement.Value

def toJson : Value → Json
  | .null => .null
  | .bool b => .bool b
  | .integer n => .ofInt64 n
  | .real x => .ofBinary64 x
  | .text s => .str s
  | .blob bytes => .arr (bytes.map Json.ofUInt8)

def encode : Value → Json
  | .null => .str "Null"
  | .bool b => .obj [("Bool", .bool b)]
  | .integer n => .obj [("Integer", .ofInt64 n)]
  | .real x => .obj [("Real", .ofBinary64 x)]
  | .text s => .obj [("Text", .str s)]
  | .blob bytes => .obj [("Blob", .arr (bytes.map Json.ofUInt8))]

def variants : List (Variant Value) :=
  [ .plain "Null" .null,
    .holding "Bool" .bool,
    .holding "Integer" .integer,
    .holding "Real" .real,
    .holding "Text" .text,
    .holding "Blob" .blob ]

instance : Decode Value := ⟨Variant.read variants⟩

end SqlStatement.Value
