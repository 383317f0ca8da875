import SqlStatement.Executor.Event
import SqlStatement.Row.Basic

/-!
# Executors

An executor runs statements. What it does may change it, so every operation answers with the
executor as it is afterwards (`Reply`).
-/

namespace SqlStatement

/-- What an operation of an executor came to, the executor afterwards, and what was told. -/
structure Reply (σ α : Type) where
  result : Except Error α
  executor : σ
  events : List Event := []

class Executor (σ : Type) where
  /-- Runs a statement without parameters and drops its rows. -/
  executeBatch : σ → String → Reply σ Unit
  /-- Runs a statement with its parameters in bind order, and answers every row. -/
  fetchAll : σ → String → List Value → Reply σ (List Row)
  /-- Lets the connection go. -/
  close : σ → Reply σ Unit

end SqlStatement
