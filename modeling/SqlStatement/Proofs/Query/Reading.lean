import SqlStatement.Proofs.Decode.Basic
import SqlStatement.Proofs.Query.History

/-!
# Reading the rows of an answer

`Query.executeAs` runs a statement as `Query.execute` does and then reads the rows of the answer.
Every row is read, in order, or the first one that cannot be read gives the error
(`executeAs_reads_every_row`). A failure of the executor is reported as the error mode says, a row
that cannot be read is not.
-/

namespace SqlStatement

namespace Query

/-- Running a statement tells nothing of an answer that has rows. -/
theorem execute_of_ok {σ : Type} [Executor σ] (q : Query) (executor : σ) {rows : List Row}
    (h : (Executor.fetchAll executor q.build q.parameters).result = .ok rows) :
    (q.execute executor).reply.result = .ok rows ∧
      (q.execute executor).reply.events =
        .executing q.build q.parameters.length ::
          (Executor.fetchAll executor q.build q.parameters).events := by
  simp only [execute, settle, h]
  exact ⟨trivial, trivial⟩

/-- **Every row is read, or the first failure is reported.** Running a statement and reading its
rows makes one fetch and empties the query, whatever comes of it. If the executor fails, the error
is that of running the statement alone. If it answers rows, each of them is read, in order, or the
error is that of the first row that does not decode, whatever the error mode, and nothing is told of
it. -/
theorem executeAs_reads_every_row {σ α : Type} [Executor σ] [Decode α] (q : Query)
    (executor : σ) :
    let fetched := Executor.fetchAll executor q.build q.parameters
    let run := q.executeAs α executor
    (run.query.clauses = [] ∧ run.query.parameters = []) ∧
      run.reply.executor = fetched.executor ∧
      (∀ script : Script, (q.executeAs α script).reply.executor.calls =
        script.calls ++ [.fetch q.build q.parameters]) ∧
      match fetched.result with
      | .error e =>
        (q.execute executor).reply.result = .error (q.config.errorMode.apply e) ∧
          run.reply.result = .error (q.config.errorMode.apply e)
      | .ok rows =>
        run.reply.events = .executing q.build q.parameters.length :: fetched.events ∧
          (∀ values, run.reply.result = .ok values ↔
            List.Forall₂ (fun row value => row.read α = .ok value) rows values) ∧
          ∀ e, run.reply.result = .error e ↔
            ∃ before row after cause, rows = before ++ row :: after ∧
              (∀ earlier ∈ before, ∃ value, earlier.read α = .ok value) ∧
              (decode row.toJson : Except DecodeError α) = .error cause ∧
              e = .serialization cause := by
  intro fetched run
  obtain ⟨hquery, hexecutor, hresult⟩ := q.execute_spec executor
  have hcleared : run.query = q.cleared := hquery
  have hread : run.reply.result = (q.execute executor).reply.result >>= List.mapM (Row.read α) :=
    rfl
  refine ⟨?_, hexecutor, fun script => (q.execute_spec script).2.1 ▸ rfl, ?_⟩
  · rw [hcleared]
    exact ⟨rfl, rfl⟩
  cases hfetched : fetched.result with
  | error e =>
    have hfailed : (Executor.fetchAll executor q.build q.parameters).result = .error e := hfetched
    have herror : (q.execute executor).reply.result = .error (q.config.errorMode.apply e) := by
      rw [hresult, hfailed]
      rfl
    exact ⟨herror, by rw [hread, herror]; rfl⟩
  | ok rows =>
    obtain ⟨hrows, hevents⟩ := q.execute_of_ok executor hfetched
    have hmap : run.reply.result = rows.mapM (Row.read α) := by
      rw [hread, hrows]
      rfl
    refine ⟨hevents, fun values => ?_, fun e => ?_⟩
    · rw [hmap, Decode.mapM_eq_ok_iff]
    · rw [hmap, Decode.mapM_eq_error_iff]
      simp only [Row.read_eq_error_iff, exists_and_left]

end Query

end SqlStatement
