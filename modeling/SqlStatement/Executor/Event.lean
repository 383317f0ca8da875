import SqlStatement.Config.Modes
import SqlStatement.Json.Basic

/-!
# Events

What queries and executors tell about their work. An event has a level, the part of the program that
tells it, a message and named fields.
-/

namespace SqlStatement

inductive Level where
  | debug
  | info
  | warn
  deriving DecidableEq

def Level.name : Level → String
  | .debug => "DEBUG"
  | .info => "INFO"
  | .warn => "WARN"

inductive Event where
  /-- A query hands a statement to its executor. -/
  | executing (sql : String) (paramCount : Nat)
  /-- The executor failed; the error is told as it was before the error mode is applied. -/
  | failed (sql : String) (error : String)
  | connected (url : String) (journalMode : JournalMode)
  | ensuringTable (ddl : String)
  | closing
  deriving DecidableEq

namespace Event

def level : Event → Level
  | .executing _ _ | .ensuringTable _ | .closing => .debug
  | .connected _ _ => .info
  | .failed _ _ => .warn

def target : Event → String
  | .executing _ _ | .failed _ _ => "sqlchain::sql"
  | .connected _ _ | .ensuringTable _ | .closing => "sqlchain::executor"

def message : Event → String
  | .executing _ _ => "executing statement"
  | .failed _ _ => "statement failed"
  | .connected _ _ => "connected to sqlite"
  | .ensuringTable _ => "ensuring default table"
  | .closing => "closing sqlite pool"

/-- A count, which stays below the range of integers in JSON. -/
private def count (n : Nat) : Json := (Json.ofInt? n).getD .null

def fields : Event → List (String × Json)
  | .executing sql paramCount => [("sql", .str sql), ("param_count", count paramCount)]
  | .failed sql error => [("sql", .str sql), ("error", .str error)]
  | .connected url journalMode =>
    [("url", .str url), ("journal_mode", .str journalMode.keyword)]
  | .ensuringTable ddl => [("ddl", .str ddl)]
  | .closing => []

end Event

end SqlStatement
