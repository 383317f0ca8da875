import SqlStatement.Executor.Script
import SqlStatement.Query.Basic

/-!
# Sessions

In a `Session` any number of queries share one scripted executor. A session takes steps, each of
them on the query of some number, and reports after every step.
-/

namespace SqlStatement

inductive Step (α : Type) where
  | append (clause : Clause)
  /-- Looks at the query and changes nothing. -/
  | inspect
  | config
  | execute
  /-- Runs the statement and reads its rows. -/
  | executeWith (read : Row → Except Error α)
  | close

inductive StepResult (α : Type) where
  | nothing
  | config (config : QueryConfig)
  | rows (result : Except Error (List Row))
  | readings (result : Except Error (List α))
  | closed (result : Except Error Unit)

/-- The query after a step, what the step came to, the calls it made and what was told. -/
structure Report (α : Type) where
  query : Query
  result : StepResult α
  calls : List Call
  events : List Event

/-- Queries under their numbers, and the executor that they share. -/
structure Session where
  executor : Script
  queries : Nat → Query

namespace Session

variable {α : Type}

/-- A session with a new query of each of these settings, numbered from 0. -/
def start (executor : Script) (configs : List QueryConfig) : Session where
  executor
  queries number := .withConfig (configs.getD number {})

def setQuery (session : Session) (number : Nat) (query : Query) : Nat → Query :=
  fun other => if other = number then query else session.queries other

/-- The session after a step on the query of this number, and what the step came to. -/
def perform (session : Session) (number : Nat) :
    Step α → Session × StepResult α × List Event
  | .append clause =>
    let query := (session.queries number).append clause
    ({ session with queries := session.setQuery number query }, .nothing, [])
  | .inspect => (session, .nothing, [])
  | .config => (session, .config (session.queries number).config, [])
  | .execute =>
    let run := (session.queries number).execute session.executor
    (⟨run.reply.executor, session.setQuery number run.query⟩, .rows run.reply.result,
      run.reply.events)
  | .executeWith read =>
    let run := (session.queries number).executeWith read session.executor
    (⟨run.reply.executor, session.setQuery number run.query⟩, .readings run.reply.result,
      run.reply.events)
  | .close =>
    let reply := Executor.close session.executor
    ({ session with executor := reply.executor }, .closed reply.result, reply.events)

def step (session : Session) (number : Nat) (action : Step α) : Session × Report α :=
  let (after, result, events) := session.perform number action
  let calls := after.executor.calls.drop session.executor.calls.length
  (after, ⟨after.queries number, result, calls, events⟩)

def run (session : Session) : List (Nat × Step α) → List (Report α)
  | [] => []
  | (number, action) :: rest =>
    let (after, report) := session.step number action
    report :: after.run rest

end Session

end SqlStatement
