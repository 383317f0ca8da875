import SqlStatement.Config.Basic
import SqlStatement.Executor.Basic
import SqlStatement.Query.Clause
import SqlStatement.Query.Columns
import SqlStatement.Row.Json

/-!
# Queries

A `Query` collects the texts of clauses and the values that they bind. `Query.build` is the
statement: the texts in the order in which they were added, joined by single spaces. Nothing is
checked; a mistake shows when an executor refuses the statement.

`Query.execute` hands the statement to an executor. The query is empty afterwards, whatever the
executor answers. `Query.executeAs` reads every row of the answer as well, and fails with the first
row that cannot be read.
-/

namespace SqlStatement

/-- The parts of a statement under construction. -/
structure Query where
  clauses : List String := []
  parameters : List Value := []
  config : QueryConfig := {}

namespace Query

def withConfig (config : QueryConfig) : Query := { config }

/-! ## Building -/

def append (q : Query) (clause : Clause) : Query :=
  { q with
    clauses := q.clauses ++ [clause.text]
    parameters := q.parameters ++ clause.values }

section Clauses

variable {γ ν : Type} [ToColumns γ] [ToValue ν] (q : Query)

def select (columns : γ) : Query := q.append (.select (toColumns columns))

def fromTable (table : String) : Query := q.append (.fromTable table)

def filter (predicate : String) (values : List ν) : Query :=
  q.append (.filter predicate (values.map toValue))

def insertInto (table : String) (fields : γ) (values : List ν) : Query :=
  q.append (.insertInto table (toColumns fields) (values.map toValue))

def update (table : String) : Query := q.append (.update table)

def set (fields : γ) (values : List ν) : Query :=
  q.append (.set (toColumns fields) (values.map toValue))

def deleteFrom (table : String) : Query := q.append (.deleteFrom table)

def join (kind : JoinKind) (table condition : String) : Query :=
  q.append (.join kind table condition)

def orderBy (column : String) (direction : SortDirection) : Query :=
  q.append (.orderBy column direction)

def limit (count : UInt64) : Query := q.append (.limit count)

def offset (count : UInt64) : Query := q.append (.offset count)

end Clauses

def build (q : Query) : String := " ".intercalate q.clauses

def isEmpty (q : Query) : Bool := q.clauses.isEmpty && q.parameters.isEmpty

def cleared (q : Query) : Query := withConfig q.config

/-! ## Running -/

structure Run (σ α : Type) where
  query : Query
  reply : Reply σ α

/-- What running the query comes to when its executor replies. A failure is told as it is, and
reported as the error mode says. -/
def settle {σ : Type} (q : Query) (reply : Reply σ (List Row)) : Run σ (List Row) :=
  let executing := Event.executing q.build q.parameters.length
  { query := q.cleared
    reply :=
      match reply.result with
      | .ok rows =>
        { reply with result := .ok rows, events := executing :: reply.events }
      | .error e =>
        { reply with
          result := .error (q.config.errorMode.apply e)
          events := executing :: reply.events ++ [.failed q.build e.message] } }

variable {σ α : Type} [Executor σ]

def execute (q : Query) (executor : σ) : Run σ (List Row) :=
  q.settle (Executor.fetchAll executor q.build q.parameters)

def executeWith (q : Query) (read : Row → Except Error α) (executor : σ) : Run σ (List α) :=
  let run := q.execute executor
  { query := run.query
    reply :=
      { result := run.reply.result >>= List.mapM read
        executor := run.reply.executor
        events := run.reply.events } }

def executeAs (α : Type) [Decode α] (q : Query) (executor : σ) : Run σ (List α) :=
  q.executeWith (Row.read α) executor

end Query

end SqlStatement
