import SqlStatement.Sqlite.Driver

/-!
# What the engine stores

The engine stores content of five classes (`Cell`). `Argument.content` is what an argument is bound
as, and the limits are those of an engine that was built with its defaults.
-/

namespace SqlStatement

/-- Content of a storage class. -/
inductive Cell where
  | null
  | integer (value : Int64)
  | real (value : Binary64)
  | text (value : String)
  | blob (bytes : List UInt8)
  deriving DecidableEq, Inhabited

/-- There is no class for booleans. -/
def Argument.content : Argument → Cell
  | .absent => .null
  | .bool b => .integer (if b then 1 else 0)
  | .int64 n => .integer n
  | .double x => .real x
  | .text s => .text s
  | .blob bytes => .blob bytes

/-! ## Limits -/

/-- No table and no result has more columns. -/
def maxColumns : Nat := 2000

/-- No variable has a larger number. -/
def maxVariables : Nat := 32766

/-- No text and no blob has more bytes. -/
def maxBytes : Nat := 1000000000

def Argument.byteCount : Argument → Nat
  | .text s => s.utf8ByteSize
  | .blob bytes => bytes.length
  | _ => 0

end SqlStatement
