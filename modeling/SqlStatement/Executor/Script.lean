import SqlStatement.Executor.Basic

/-!
# Scripted executors

A `Script` is an executor whose answers are fixed beforehand and which records the calls that are
made to it. Each fetch takes the next answer, and there are no rows once the answers have run
out. The first close fails if an error is given for it.
-/

namespace SqlStatement

inductive Call where
  | batch (sql : String)
  | fetch (sql : String) (params : List Value)
  | close
  deriving DecidableEq

/-- Answers to come and calls so far, the latest last. -/
structure Script where
  answers : List (Except Error (List Row)) := []
  closeError : Option Error := none
  calls : List Call := []

namespace Script

def record (script : Script) (call : Call) : Script :=
  { script with calls := script.calls ++ [call] }

def nextAnswer (script : Script) : Except Error (List Row) := script.answers.headD (.ok [])

def closeResult (script : Script) : Except Error Unit :=
  match script.closeError with
  | some e => .error e
  | none => .ok ()

instance : Executor Script where
  executeBatch script sql := { result := .ok (), executor := script.record (.batch sql) }
  fetchAll script sql params :=
    { result := script.nextAnswer
      executor := { script.record (.fetch sql params) with answers := script.answers.tail } }
  close script :=
    { result := script.closeResult
      executor := { script.record .close with closeError := none } }

end Script

end SqlStatement
