import SqlStatement.Decode.Variant
import SqlStatement.Error

/-!
# Modes

`JournalMode` is how the engine keeps its journal, `ErrorMode` how a query reports a failure of its
executor. Both are written in JSON as a name and read from it.
-/

namespace SqlStatement

inductive JournalMode where
  | delete
  | truncate
  | persist
  | memory
  | wal
  | off
  deriving DecidableEq, Repr

namespace JournalMode

def keyword : JournalMode → String
  | .delete => "DELETE"
  | .truncate => "TRUNCATE"
  | .persist => "PERSIST"
  | .memory => "MEMORY"
  | .wal => "WAL"
  | .off => "OFF"

instance : Inhabited JournalMode := ⟨.wal⟩

def all : List JournalMode := [.delete, .truncate, .persist, .memory, .wal, .off]

def encode (mode : JournalMode) : Json := .str mode.keyword

instance : Decode JournalMode := ⟨Variant.read (all.map fun mode => .plain mode.keyword mode)⟩

end JournalMode

/-- How a query reports a failure of its executor. -/
inductive ErrorMode where
  /-- Folded into a query execution error. -/
  | wrap
  /-- As it is. -/
  | propagate
  deriving DecidableEq, Repr

namespace ErrorMode

def name : ErrorMode → String
  | .wrap => "wrap"
  | .propagate => "propagate"

instance : Inhabited ErrorMode := ⟨.wrap⟩

def all : List ErrorMode := [.wrap, .propagate]

def encode (mode : ErrorMode) : Json := .str mode.name

instance : Decode ErrorMode := ⟨Variant.read (all.map fun mode => .plain mode.name mode)⟩

def apply : ErrorMode → Error → Error
  | .wrap, e => e.intoQueryExecution
  | .propagate, e => e

end ErrorMode

end SqlStatement
