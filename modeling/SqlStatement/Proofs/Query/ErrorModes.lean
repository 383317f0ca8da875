import SqlStatement.Proofs.Query.History

/-!
# What the error mode of a query changes

Two sessions run the same steps on the same script, and the error modes of their queries are chosen
independently. They stay the same up to the settings of the queries (`SameButSettings`): that is
what every step keeps (`SameButSettings.step`).

* `Query.execute_events`: what running a statement tells, which no error mode has a part in.
* `alike_of_error_modes`: step by step, the two sessions make the same calls, tell the same events
  and come to the same results, unless the executor fails; then each mode reports the error its
  own way.
-/

namespace SqlStatement

namespace Query

/-- The queries differ at most in their settings. -/
structure SameStatement (q q' : Query) : Prop where
  clauses : q.clauses = q'.clauses
  parameters : q.parameters = q'.parameters

namespace SameStatement

theorem build {q q' : Query} (h : q.SameStatement q') : q.build = q'.build := by
  rw [Query.build, Query.build, h.clauses]

theorem isEmpty {q q' : Query} (h : q.SameStatement q') : q.isEmpty = q'.isEmpty := by
  rw [Query.isEmpty, Query.isEmpty, h.clauses, h.parameters]

theorem append {q q' : Query} (h : q.SameStatement q') (clause : Clause) :
    (q.append clause).SameStatement (q'.append clause) :=
  ⟨by simp only [Query.append, h.clauses], by simp only [Query.append, h.parameters]⟩

theorem cleared (q q' : Query) : q.cleared.SameStatement q'.cleared := ⟨rfl, rfl⟩

end SameStatement

/-- What is told of a statement and of the answer to it. -/
def told (sql : String) (params : List Value) (answer : Except Error (List Row)) : List Event :=
  .executing sql params.length ::
    match answer with
    | .ok _ => []
    | .error e => [.failed sql e.message]

/-- One debug event and, exactly after a failure, one warning behind it. -/
theorem levels_told (sql : String) (params : List Value) (answer : Except Error (List Row)) :
    (told sql params answer).map Event.level =
      .debug :: if answer.isOk then [] else [.warn] := by
  cases answer <;> rfl

/-- An executor that tells nothing itself leaves the telling to the query, which tells the error as
the executor gave it. -/
theorem execute_events {σ : Type} [Executor σ] (q : Query) (executor : σ)
    (hquiet : (Executor.fetchAll executor q.build q.parameters).events = []) :
    (q.execute executor).reply.events =
      told q.build q.parameters (Executor.fetchAll executor q.build q.parameters).result := by
  cases h : (Executor.fetchAll executor q.build q.parameters).result with
  | ok rows => simp only [execute, settle, told, h, hquiet]
  | error e => simp only [execute, settle, told, h, hquiet, List.cons_append, List.nil_append]

end Query

namespace StepResult

variable {α : Type}

def error? : StepResult α → Option Error
  | .rows (.error e) | .readings (.error e) => some e
  | _ => none

/-- A failure `e` of the executor is reported under this mode. -/
def Reports (result : StepResult α) (e : Error) : ErrorMode → Prop
  | .propagate => result.error? = some e
  | .wrap => result.error? = some e.intoQueryExecution

theorem reports_rows (mode : ErrorMode) (e : Error) :
    (StepResult.rows (α := α) (.error (mode.apply e))).Reports e mode := by
  cases mode <;> rfl

theorem reports_readings (mode : ErrorMode) (e : Error) :
    (StepResult.readings (α := α) (.error (mode.apply e))).Reports e mode := by
  cases mode <;> rfl

end StepResult

/-- What the reports on one step have in common in two sessions, where the query has one of these
settings in each, and the executor would answer a fetch with `answer`. -/
structure Report.Alike {α : Type} (settings settings' : QueryConfig)
    (answer : Except Error (List Row)) (action : Step α) (report report' : Report α) : Prop where
  calls : report.calls = report'.calls
  query : report.query.SameStatement report'.query
  events : report.events = report'.events
  /-- Running a statement is told of once, and a failure once more, with the error as the executor
  gave it. -/
  told : action.runs = true → ∃ sql params,
    report.calls = [.fetch sql params] ∧ report.events = Query.told sql params answer ∧
      report.events.map Event.level = .debug :: if answer.isOk then [] else [.warn]
  /-- Unless the executor failed, the results are the same. -/
  result : (action.runs = true → answer.isOk = true) → action ≠ .config →
    report.result = report'.result
  /-- Each query gives out its own settings. -/
  config : action = .config →
    report.result = .config settings ∧ report'.result = .config settings'
  /-- A failure of the executor is reported as each mode says. -/
  failure : action.runs = true → ∀ e, answer = .error e →
    report.result.Reports e settings.errorMode ∧ report'.result.Reports e settings'.errorMode

namespace Session

variable {α : Type}

/-! ## One step -/

/-- The script after a step. -/
theorem executor_step (session : Session) (number : Nat) (action : Step α) :
    (session.step number action).1.executor =
      match action with
      | .execute | .executeWith _ =>
        (Executor.fetchAll session.executor (session.queries number).build
          (session.queries number).parameters).executor
      | .close => (Executor.close session.executor).executor
      | _ => session.executor := by
  have hexecutor := ((session.queries number).execute_spec session.executor).2.1
  cases action with
  | execute => exact hexecutor
  | executeWith read => exact hexecutor
  | append | inspect | config | close => rfl

/-- What is told of a step. -/
theorem events_step (session : Session) (number : Nat) (action : Step α) :
    (session.step number action).2.events =
      if action.runs then
        Query.told (session.queries number).build (session.queries number).parameters
          session.executor.nextAnswer
      else [] := by
  have htold := (session.queries number).execute_events session.executor rfl
  cases action with
  | execute => exact htold
  | executeWith read => exact htold
  | append | inspect | config | close => rfl

/-- The sessions differ at most in the settings of their queries. -/
structure SameButSettings (session session' : Session) : Prop where
  executor : session.executor = session'.executor
  queries : ∀ number, (session.queries number).SameStatement (session'.queries number)

theorem SameButSettings.executor_step {session session' : Session}
    (h : SameButSettings session session') (number : Nat) (action : Step α) :
    (session.step number action).1.executor = (session'.step number action).1.executor := by
  rw [Session.executor_step, Session.executor_step, h.executor, (h.queries number).build,
    (h.queries number).parameters]

theorem SameButSettings.effect {q q' : Query} (h : q.SameStatement q') (action : Step α) :
    (action.effect q).SameStatement (action.effect q') := by
  cases action with
  | append clause => exact h.append clause
  | execute | executeWith read => exact Query.SameStatement.cleared q q'
  | inspect | config | close => exact h

theorem SameButSettings.step {session session' : Session} (h : SameButSettings session session')
    (number : Nat) (action : Step α) :
    SameButSettings (session.step number action).1 (session'.step number action).1 := by
  refine ⟨h.executor_step number action, fun other => ?_⟩
  rw [(session.step_spec number action).1, (session'.step_spec number action).1]
  unfold setQuery
  split
  · exact effect (h.queries number) action
  · exact h.queries other

/-- Two sessions that differ only in settings report on a step alike. -/
theorem SameButSettings.alike {session session' : Session} (h : SameButSettings session session')
    (number : Nat) (action : Step α) :
    Report.Alike (session.queries number).config (session'.queries number).config
      session.executor.nextAnswer action (session.step number action).2
      (session'.step number action).2 := by
  obtain ⟨-, -, hcalls, hreported⟩ := session.step_spec number action
  obtain ⟨-, -, hcalls', hreported'⟩ := session'.step_spec number action
  have hquery := h.queries number
  have hevents := session.events_step number action
  have hevents' := session'.events_step number action
  rw [← h.executor] at hreported' hevents' hcalls'
  refine ⟨?_, (h.step number action).queries number, ?_, ?_, ?_, ?_, ?_⟩
  · rw [h.executor_step, hcalls'] at hcalls
    exact (List.append_cancel_left hcalls).symm
  · rw [hevents, hevents', hquery.build, hquery.parameters]
  · intro hruns
    rw [if_pos hruns] at hevents
    refine ⟨_, _, ?_, hevents, hevents ▸ Query.levels_told _ _ _⟩
    cases action with
    | execute | executeWith read => exact hreported.1
    | append | inspect | config | close => cases hruns
  · intro hok hconfig
    cases action with
    | append | inspect => rw [hreported.2.1, hreported'.2.1]
    | config => exact absurd rfl hconfig
    | execute | executeWith read =>
      rw [hreported.2.1, hreported'.2.1]
      cases hanswer : session.executor.nextAnswer with
      | ok rows => rfl
      | error e => rw [hanswer] at hok; cases hok rfl
    | close =>
      show StepResult.closed (Executor.close session.executor).result = _
      rw [h.executor]
      rfl
  · rintro rfl
    exact ⟨hreported.2.1, hreported'.2.1⟩
  · intro hruns e hanswer
    rw [hanswer] at hreported hreported'
    cases action with
    | execute =>
      rw [hreported.2.1, hreported'.2.1]
      exact ⟨StepResult.reports_rows _ e, StepResult.reports_rows _ e⟩
    | executeWith read =>
      rw [hreported.2.1, hreported'.2.1]
      exact ⟨StepResult.reports_readings _ e, StepResult.reports_readings _ e⟩
    | append | inspect | config | close => cases hruns

/-! ## Whole runs -/

theorem sameButSettings_after (script : Script) (configs configs' : List QueryConfig)
    (steps : List (Nat × Step α)) :
    SameButSettings ((start script configs).after steps) ((start script configs').after steps) := by
  induction steps using List.reverseRecOn with
  | nil => exact ⟨rfl, fun _ => ⟨rfl, rfl⟩⟩
  | append_singleton steps numbered ih =>
    obtain ⟨number, action⟩ := numbered
    rw [after_concat, after_concat]
    exact ih.step number action

/-- After any steps, a query has the settings that it had from the start. -/
theorem config_after (script : Script) (configs : List QueryConfig) (steps : List (Nat × Step α))
    (number : Nat) :
    (((start script configs).after steps).queries number).config = configs.getD number {} := by
  rw [(reached_after script configs steps).queries, Query.foldl_append]
  rfl

/-- The next answer is the one behind those that the runs so far have taken. -/
theorem nextAnswer_after (script : Script) (configs : List QueryConfig)
    (steps : List (Nat × Step α)) :
    ((start script configs).after steps).executor.nextAnswer =
      script.answers.getD (runCount steps) (.ok []) := by
  rw [Script.nextAnswer, (reached_after script configs steps).answers]
  simp [List.headD_eq_head?_getD]

/-- **The error mode changes only how a failure of the executor is reported.** After any steps, two
sessions whose queries have any error modes have made the same calls and hold the same statements,
and their reports on the next step are alike. -/
theorem alike_of_error_modes (script : Script) (configs configs' : List QueryConfig) :
    (∀ steps : List (Nat × Step α),
      let session := (start script configs).after steps
      let session' := (start script configs').after steps
      session.executor.calls = session'.executor.calls ∧
        ∀ number, (session.queries number).build = (session'.queries number).build ∧
          (session.queries number).parameters = (session'.queries number).parameters ∧
          (session.queries number).isEmpty = (session'.queries number).isEmpty) ∧
      ∀ (before : List (Nat × Step α)) (number : Nat) (action : Step α)
        (rest : List (Nat × Step α)), ∃ report report',
        ((start script configs).run (before ++ (number, action) :: rest))[before.length]? =
            some report ∧
          ((start script configs').run (before ++ (number, action) :: rest))[before.length]? =
            some report' ∧
          report.Alike (configs.getD number {}) (configs'.getD number {})
            (script.answers.getD (runCount before) (.ok [])) action report' := by
  constructor
  · intro steps session session'
    have hsame := sameButSettings_after script configs configs' steps
    refine ⟨congrArg Script.calls hsame.executor, fun number => ?_⟩
    have hquery := hsame.queries number
    exact ⟨hquery.build, hquery.parameters, hquery.isEmpty⟩
  · intro before number action rest
    have halike := (sameButSettings_after script configs configs' before).alike number action
    rw [config_after, config_after, nextAnswer_after] at halike
    exact ⟨_, _, getElem?_run _ before number action rest, getElem?_run _ before number action rest,
      halike⟩

end Session

end SqlStatement
