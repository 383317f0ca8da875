import SqlStatement.Config.Basic
import SqlStatement.Marker.Number
import SqlStatement.Query.Basic
import SqlStatement.Sqlite.Driver

/-!
# The executor for SQLite

A `SqliteExecutor` runs statements on a pool of a driver. It numbers the bare markers of a statement
and hands every value over as an argument of its own type (`Value.argument`). A cell of the answer
is read by the storage class of what is stored in it and not by the type that its column was
declared with (`SqliteRow.valueAt`).

Where the markers have no numbering the program stops, so fetching gives a reply only if they have
one. A batch has no parameters and is handed over as it is.
-/

namespace SqlStatement

/-! ## Values and cells -/

/-- The value as an argument; a null is an integer that is not there. -/
def Value.argument : Value → Argument
  | .null => .absent
  | .bool b => .bool b
  | .integer n => .int64 n
  | .real x => .double x
  | .text s => .text s
  | .blob bytes => .blob bytes

namespace SqliteRow

variable {ρ : Type} [SqliteRow ρ]

/-- Reads the cell in this place. What has none of the names below is read as a text. -/
def valueAt (row : ρ) (place : Nat) : Except EngineError Value := do
  let raw ← rawAt row place
  if raw.isNull then return .null
  else
    match raw.typeName with
    | "INTEGER" | "BOOLEAN" => return .integer (← int64At row place)
    | "REAL" => return .real (← doubleAt row place)
    | "BLOB" => return .blob (← bytesAt row place)
    | _ => return .text (← textAt row place)

/-- Reads the cell of a column and adds it to those that were read before it. -/
def pushCell (row : ρ) (out : Row) (column : SqliteColumn) : Except EngineError Row := do
  return out.push column.name (← valueAt row column.ordinal)

/-- Reads the cells from left to right. The first that cannot be read gives the error. -/
def toRow (row : ρ) : Except EngineError Row := (columns row).foldlM (pushCell row) .empty

end SqliteRow

/-! ## The executor -/

structure SqliteExecutor (π : Type) where
  pool : π
  deriving DecidableEq

namespace SqliteExecutor

variable {π ρ : Type} [SqlitePool π ρ]

def ofPool (pool : π) : SqliteExecutor π := ⟨pool⟩

def isClosed (executor : SqliteExecutor π) : Bool := SqlitePool.isClosed executor.pool

def executeBatch (executor : SqliteExecutor π) (sql : String) : Reply (SqliteExecutor π) Unit :=
  let (result, pool) := SqlitePool.execute executor.pool sql
  { result := result.mapError .database, executor := ⟨pool⟩ }

def fetchAll [SqliteRow ρ] (executor : SqliteExecutor π) (sql : String) (params : List Value) :
    Except NumberingError (Reply (SqliteExecutor π) (List Row)) := do
  let numbered ← number sql
  let (rows, pool) :=
    SqlitePool.fetchAll executor.pool numbered.text (params.map Value.argument)
  return { result := (rows >>= List.mapM SqliteRow.toRow).mapError .database, executor := ⟨pool⟩ }

def close (executor : SqliteExecutor π) : Reply (SqliteExecutor π) Unit where
  result := .ok ()
  executor := ⟨SqlitePool.close executor.pool⟩
  events := [.closing]

def run [SqliteRow ρ] (executor : SqliteExecutor π) (q : Query) :
    Except NumberingError (Query.Run (SqliteExecutor π) (List Row)) :=
  (executor.fetchAll q.build q.parameters).map q.settle

/-! ## Opening a database -/

/-- A database in memory lives as long as its connection, so there is one, and it is kept. -/
def poolOptions (config : ExecutorConfig) : PoolOptions :=
  if config.isInMemory then
    { maxConnections := 1, minConnections := some 1, keepsConnections := true }
  else { maxConnections := config.maxConnections }

def connectOptions (config : ExecutorConfig) : ConnectOptions where
  url := config.url
  createIfMissing := true
  journalMode := config.journalMode

/-- Opens a database. The default table is made after the connection was told of. -/
def connect (config : ExecutorConfig) : Except Error (SqliteExecutor π) × List Event :=
  match config.validate with
  | .error e => (.error e, [])
  | .ok () =>
    match SqlitePool.connect (connectOptions config) (poolOptions config) with
    | .error e => (.error (.database e), [])
    | .ok pool =>
      let executor : SqliteExecutor π := .ofPool pool
      let connected := Event.connected config.url config.journalMode
      match config.defaultTable with
      | none => (.ok executor, [connected])
      | some ddl =>
        let reply := executor.executeBatch ddl
        (reply.result.map fun () => reply.executor,
          connected :: .ensuringTable ddl :: reply.events)

end SqliteExecutor

end SqlStatement
