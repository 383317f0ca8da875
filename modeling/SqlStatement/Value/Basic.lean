import SqlStatement.Binary64.Rounding

/-!
# Values

A `Value` is a scalar that the engine can store: it is bound to a marker of a statement, or read
back as a cell of a row. The engine has five storage classes and no class for booleans, which
it stores as integers; `Value.asInt64?` and `Value.typeName` see a boolean as it is stored.

Equality `=` compares reals by their bits; `Value.sameAs` compares them as numbers.
-/

namespace SqlStatement

inductive StorageClass where
  | null
  | integer
  | real
  | text
  | blob
  deriving DecidableEq, Repr

def StorageClass.name : StorageClass → String
  | .null => "NULL"
  | .integer => "INTEGER"
  | .real => "REAL"
  | .text => "TEXT"
  | .blob => "BLOB"

/-- A parameter of a statement or a cell of a row. -/
inductive Value where
  | null
  | bool (value : Bool)
  | integer (value : Int64)
  | real (value : Binary64)
  | text (value : String)
  | blob (bytes : List UInt8)
  deriving DecidableEq, Inhabited

namespace Value

def isNull : Value → Bool
  | .null => true
  | _ => false

def storageClass : Value → StorageClass
  | .null => .null
  | .bool _ | .integer _ => .integer
  | .real _ => .real
  | .text _ => .text
  | .blob _ => .blob

def typeName (v : Value) : String := v.storageClass.name

/-! ## Reading a value as a type -/

def asText? : Value → Option String
  | .text s => some s
  | _ => none

def ofBool (b : Bool) : Int64 := if b then 1 else 0

/-- An integer, or the integer that stands for a boolean. -/
def asInt64? : Value → Option Int64
  | .integer n => some n
  | .bool b => some (ofBool b)
  | _ => none

/-- A real, or an integer rounded to the nearest real. -/
def asReal? : Value → Option Binary64
  | .real x => some x
  | .integer n => some (Binary64.ofInt n.toInt)
  | _ => none

def asBytes? : Value → Option (List UInt8)
  | .blob bytes => some bytes
  | _ => none

/-! ## Comparison -/

/-- The same variant with the same content, reals compared as numbers. -/
def sameAs : Value → Value → Bool
  | .real x, .real y => x.sameNumber y
  | v, w => decide (v = w)

end Value

/-! ## Making values -/

class ToValue (α : Type) where
  toValue : α → Value

export ToValue (toValue)

instance : ToValue Value := ⟨id⟩

instance : ToValue Unit := ⟨fun _ => .null⟩

instance : ToValue Bool := ⟨.bool⟩

instance : ToValue Int32 := ⟨fun n => .integer n.toInt64⟩

instance : ToValue Int64 := ⟨.integer⟩

instance : ToValue UInt32 := ⟨fun n => .integer (Int64.ofNat n.toNat)⟩

instance : ToValue Binary32 := ⟨fun x => .real (Binary64.ofBinary32 x)⟩

instance : ToValue Binary64 := ⟨.real⟩

instance : ToValue String := ⟨.text⟩

instance : ToValue (List UInt8) := ⟨.blob⟩

/-- Nothing is null. -/
instance {α : Type} [ToValue α] : ToValue (Option α) where
  toValue
    | some a => toValue a
    | none => .null

end SqlStatement
