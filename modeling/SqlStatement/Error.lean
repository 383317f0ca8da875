import SqlStatement.Decode.Error

/-!
# Errors

An `Error` is what running a statement can come to. `Error.message` is its display text.
`Error.source` is what lies behind it, another error or an error of the engine or of the decoder,
and `Error.sources` are the display texts of all that lies behind it, from the nearest on.

`Error.intoQueryExecution` folds an error into one layer: a query execution error stays as it is,
and any other error becomes the source of one.
-/

namespace SqlStatement

inductive EngineError where
  | rowNotFound
  | poolClosed
  | poolTimedOut
  | workerCrashed
  | columnNotFound (name : String)
  | protocol (text : String)
  /-- The database URL is not understood. -/
  | badUrl (text : String)
  /-- The statement is refused. -/
  | badStatement (text : String)
  /-- Any other, in its own words, with the texts of what lies behind it. -/
  | other (text : String) (sources : List String)
  deriving DecidableEq

def EngineError.message : EngineError → String
  | .rowNotFound => "no rows returned by a query that expected to return at least one row"
  | .poolClosed => "attempted to acquire a connection on a closed pool"
  | .poolTimedOut => "pool timed out while waiting for an open connection"
  | .workerCrashed => "attempted to communicate with a crashed background worker"
  | .columnNotFound name => "no column found for name: " ++ name
  | .protocol text => "encountered unexpected or invalid data: " ++ text
  | .badUrl text => "error with configuration: " ++ text
  | .badStatement text => "error returned from database: " ++ text
  | .other text _ => text

/-- The display texts of what lies behind the engine's error, from the nearest on. -/
def EngineError.sources : EngineError → List String
  | .badUrl text | .badStatement text => [text]
  | .other _ sources => sources
  | _ => []

inductive Error where
  /-- The engine's own error. -/
  | database (cause : EngineError)
  /-- A statement that failed to execute, with the error behind it if there is one. -/
  | queryExecution (text : String) (source : Option Error)
  /-- A row that does not decode. -/
  | serialization (cause : DecodeError)
  /-- Settings that cannot be used. -/
  | config (text : String)

inductive ErrorKind where
  | database
  | queryExecution
  | serialization
  | config
  deriving DecidableEq

def ErrorKind.name : ErrorKind → String
  | .database => "Database"
  | .queryExecution => "QueryExecution"
  | .serialization => "Serialization"
  | .config => "Config"

namespace Error

def kind : Error → ErrorKind
  | .database _ => .database
  | .queryExecution _ _ => .queryExecution
  | .serialization _ => .serialization
  | .config _ => .config

/-- The display text. -/
def message : Error → String
  | .database cause => "Database error: " ++ cause.message
  | .queryExecution text _ => text
  | .serialization cause => "Serialization error: " ++ cause.message
  | .config text => "Configuration error: " ++ text

/-- The display texts of what lies behind the error, from the nearest on. -/
def sources : Error → List String
  | .database cause => cause.message :: cause.sources
  | .queryExecution _ (some source) => source.message :: source.sources
  | .queryExecution _ none => []
  | .serialization cause => cause.message :: cause.sources
  | .config _ => []

/-- What lies behind an error: another error, or one of the engine or the decoder, which is known by
its display text and by those of what lies behind it. -/
inductive Source where
  | error (e : Error)
  | foreign (text : String) (sources : List String)

/-- The nearest of what lies behind the error. -/
def source : Error → Option Source
  | .database cause => some (.foreign cause.message cause.sources)
  | .queryExecution _ source => source.map .error
  | .serialization cause => some (.foreign cause.message cause.sources)
  | .config _ => none

namespace Source

def message : Source → String
  | .error e => e.message
  | .foreign text _ => text

def source : Source → Option Source
  | .error e => e.source
  | .foreign _ [] => none
  | .foreign _ (text :: sources) => some (.foreign text sources)

end Source

def isQueryExecution (e : Error) : Bool := e.kind == .queryExecution

def cause : Error → Option Error
  | .queryExecution _ source => source
  | _ => none

def queryExecutionFailed : String := "Query execution failed"

def intoQueryExecution : Error → Error
  | .queryExecution text source => .queryExecution text source
  | other => .queryExecution queryExecutionFailed (some other)

end Error

end SqlStatement
