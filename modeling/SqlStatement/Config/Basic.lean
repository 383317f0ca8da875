import SqlStatement.Config.Modes
import SqlStatement.Decode.Record
import SqlStatement.Text.Blank
import SqlStatement.Text.Occurs

/-!
# Settings

`ExecutorConfig` says how to connect, `QueryConfig` how a query behaves. In JSON each is an object
with all fields in declared order; when it is read, a field that is missing has its default.
-/

namespace SqlStatement

/-! ## Connecting -/

structure ExecutorConfig where
  url : String := "sqlite::memory:"
  journalMode : JournalMode := .wal
  maxConnections : UInt32 := 1
  /-- A statement that is run after connecting. -/
  defaultTable : Option String := none
  deriving DecidableEq, Inhabited

namespace ExecutorConfig

def ofUrl (url : String) : ExecutorConfig := { url }

def withJournalMode (config : ExecutorConfig) (mode : JournalMode) : ExecutorConfig :=
  { config with journalMode := mode }

def withMaxConnections (config : ExecutorConfig) (count : UInt32) : ExecutorConfig :=
  { config with maxConnections := count }

def withDefaultTable (config : ExecutorConfig) (ddl : String) : ExecutorConfig :=
  { config with defaultTable := some ddl }

/-- The database lives only as long as its connection. -/
def isInMemory (config : ExecutorConfig) : Bool :=
  Text.mentions config.url ":memory:" || Text.mentions config.url "mode=memory"

/-- The settings can be used: the URL is not blank, and there is at least one connection. -/
def validate (config : ExecutorConfig) : Except Error Unit :=
  if Text.isBlank config.url then .error (.config "database url is empty")
  else if config.maxConnections = 0 then .error (.config "max_connections must be at least 1")
  else .ok ()

def encode (config : ExecutorConfig) : Json :=
  .obj [
    ("url", .str config.url),
    ("journal_mode", config.journalMode.encode),
    ("max_connections", .ofUInt32 config.maxConnections),
    ("default_table", Json.ofOption .str config.defaultTable) ]

def fields : List (Field ExecutorConfig) :=
  [ .of "url" fun url config => { config with url },
    .of "journal_mode" fun journalMode config => { config with journalMode },
    .of "max_connections" fun maxConnections config => { config with maxConnections },
    .of "default_table" fun defaultTable config => { config with defaultTable } ]

instance : Decode ExecutorConfig := ⟨Field.overlay "ExecutorConfig" fields {}⟩

end ExecutorConfig

/-! ## Queries -/

structure QueryConfig where
  errorMode : ErrorMode := .wrap
  deriving DecidableEq, Inhabited

namespace QueryConfig

def withErrorMode (config : QueryConfig) (mode : ErrorMode) : QueryConfig :=
  { config with errorMode := mode }

def encode (config : QueryConfig) : Json := .obj [("error_mode", config.errorMode.encode)]

def fields : List (Field QueryConfig) :=
  [.of "error_mode" fun errorMode config => { config with errorMode }]

instance : Decode QueryConfig := ⟨Field.overlay "QueryConfig" fields {}⟩

end QueryConfig

end SqlStatement
