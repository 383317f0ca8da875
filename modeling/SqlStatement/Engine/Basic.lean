import SqlStatement.Engine.Selection
import SqlStatement.Engine.Table.Check
import SqlStatement.Engine.Url
import SqlStatement.Text.Blank

/-!
# A stand-in for the driver and its engine

A `Pool` answers statements that need no stored table, so that the executor for SQLite can be run
without the driver. Nothing that is said of the executor rests on it, except that there is a pool
which keeps what a driver is relied on for. When it has been closed, it runs nothing.
-/

namespace SqlStatement

structure Pool where
  location : Location
  journalMode : JournalMode
  isClosed : Bool := false
  /-- The tables that there are, all letters small. -/
  tables : List (String × String) := []
  deriving DecidableEq

namespace Pool

/-- What the engine says its journal mode is: without a file it keeps none but in memory, and a
temporary file cannot be written ahead. -/
def journalModeText (pool : Pool) : String :=
  match pool.location.storage, pool.journalMode with
  | .memory, .off => "off"
  | .memory, _ => "memory"
  | .temporary, .wal => "delete"
  | _, mode => mode.keyword.toLower

/-! ## Creating tables -/

/-- The schema that a table is made in: the main one, or the one for temporary tables. -/
def schemaOf (creation : TableCreation) : Except EngineError String :=
  match creation.isTemporary, creation.table.schema.map String.toLower with
  | true, none | _, some "temp" => .ok "temp"
  | false, none | false, some "main" => .ok "main"
  | true, some _ => .error (.badStatement "temporary table name must be unqualified")
  | false, some schema => .error (.badStatement ("unknown database " ++ schema))

/-- The start of the names that the engine keeps for itself. -/
def ownNames : String := "sqlite_"

/-- A source that makes a table is one that can be checked or answered. -/
def checkSource (creation : TableCreation) (args : List Argument) : Except EngineError Unit :=
  match creation.source with
  | .definition table => table.check creation.table.name
  | .selection selection => (selection.rows args).map fun _ => ()

def createTable (pool : Pool) (creation : TableCreation) (args : List Argument) :
    Except EngineError Pool := do
  let schema ← schemaOf creation
  let name := creation.table.name.toLower
  if ownNames.toList.isPrefixOf name.toList then
    throw (.badStatement ("object name reserved for internal use: " ++ name))
  if pool.tables.contains (schema, name) then
    if creation.ifMissing then return pool
    else throw (.badStatement ("table " ++ name ++ " already exists"))
  checkSource creation args
  if pool.location.isReadOnly ∧ schema = "main" then
    throw (.badStatement "attempt to write a readonly database")
  return { pool with tables := (schema, name) :: pool.tables }

/-! ## Running statements -/

def answer (pool : Pool) (args : List Argument) :
    Statement → Except EngineError (List CellRow × Pool)
  | .select selection => (selection.rows args).map fun rows => (rows, pool)
  | .journalMode => .ok ([[("journal_mode", .text pool.journalModeText)]], pool)
  | .createTable creation => (pool.createTable creation args).map fun pool => ([], pool)

/-- The rows that statements answer, one after the other, up to the first that is refused. What was
done before it stays done. -/
def runAll (pool : Pool) (args : List Argument) :
    List (List Token) → Except EngineError (List CellRow) × Pool
  | [] => (.ok [], pool)
  | tokens :: rest =>
    match Statement.ofTokens tokens >>= pool.answer args with
    | .error e => (.error e, pool)
    | .ok (rows, after) =>
      let (more, last) := after.runAll args rest
      (more.map (rows ++ ·), last)

/-- The rows that the statements of a text answer. White space around the text does not count, and
a text with a null character is not read. -/
def run (pool : Pool) (sql : String) (args : List Argument) :
    Except EngineError (List CellRow) × Pool :=
  if pool.isClosed then (.error .poolClosed, pool)
  else if sql.toList.contains '\x00' then (.error (.badStatement "incomplete input"), pool)
  else pool.runAll args (Statement.split (Text.trim sql))

end Pool

instance : SqlitePool Pool CellRow where
  connect options _ := do
    let location ← Location.ofUrl options.url
    return { location, journalMode := options.journalMode }
  execute pool sql :=
    let (result, after) := pool.run sql []
    (result.map fun _ => (), after)
  fetchAll := Pool.run
  close pool := { pool with isClosed := true }
  isClosed := Pool.isClosed

end SqlStatement
