import SqlStatement.Config.Modes

/-!
# The driver of the engine

The executor for SQLite does not reach the engine itself. It hands texts and arguments to a driver
library, and gets back rows whose cells it has to ask for. The driver and the engine behind it are
no part of this library: `SqliteRow` and `SqlitePool` name the operations that are called, with the
answers that they can give, and say nothing about what they do.
-/

namespace SqlStatement

/-! ## What is handed over -/

inductive Argument where
  /-- No 64-bit integer. -/
  | absent
  | bool (value : Bool)
  | int64 (value : Int64)
  | double (value : Binary64)
  | text (value : String)
  | blob (bytes : List UInt8)
  deriving DecidableEq

structure ConnectOptions where
  url : String
  /-- A database file that is missing is made. -/
  createIfMissing : Bool
  journalMode : JournalMode
  deriving DecidableEq

structure PoolOptions where
  maxConnections : UInt32
  /-- If not given, this is left to the driver. -/
  minConnections : Option UInt32 := none
  /-- A connection is given up neither for being idle nor for its age. -/
  keepsConnections : Bool := false
  deriving DecidableEq

/-! ## What comes back -/

structure SqliteColumn where
  ordinal : Nat
  name : String
  deriving DecidableEq

/-- What the driver tells of a cell before it is read. -/
structure RawCell where
  isNull : Bool
  typeName : String
  deriving DecidableEq

/-- Rows of a driver. A cell is asked for by the ordinal of its column, and read as the type that is
asked for, whatever it holds. -/
class SqliteRow (ρ : Type) where
  columns : ρ → List SqliteColumn
  rawAt : ρ → Nat → Except EngineError RawCell
  int64At : ρ → Nat → Except EngineError Int64
  doubleAt : ρ → Nat → Except EngineError Binary64
  textAt : ρ → Nat → Except EngineError String
  bytesAt : ρ → Nat → Except EngineError (List UInt8)

/-- Pools of connections that answer rows of type `ρ`. Using a pool may change it. -/
class SqlitePool (π : Type) (ρ : outParam Type) where
  connect : ConnectOptions → PoolOptions → Except EngineError π
  /-- Runs a text without arguments and drops its rows. -/
  execute : π → String → Except EngineError Unit × π
  /-- Runs a text with its arguments in the order in which they were bound. -/
  fetchAll : π → String → List Argument → Except EngineError (List ρ) × π
  close : π → π
  isClosed : π → Bool

end SqlStatement
