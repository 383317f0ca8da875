import Mathlib.Data.List.DropRight
import SqlStatement.Proofs.Query.Chain
import SqlStatement.Proofs.Query.Fragments
import SqlStatement.Query.Session

/-!
# What a query holds

A query holds what was added to it since it last ran (`window`), however the steps on other queries
come in between. Running takes the next answer of the script and empties the query, whatever comes
of it.

* `Reached.step`, `reached_after`: each query holds its window, and every run has taken one answer.
* `queries_accumulate`: the same for what a query gives out, and what every step reports.
-/

namespace SqlStatement

namespace Step

variable {α : Type}

def runs : Step α → Bool
  | .execute | .executeWith _ => true
  | _ => false

def clause? : Step α → Option Clause
  | .append clause => some clause
  | _ => none

def effect (q : Query) : Step α → Query
  | .append clause => q.append clause
  | .execute | .executeWith _ => q.cleared
  | _ => q

/-- The report on a step, given the query before it and the answer that comes next. -/
def Reported (q : Query) (answer : Except Error (List Row)) (report : Report α) : Step α → Prop
  | .append clause =>
    report.calls = [] ∧ report.result = .nothing ∧ report.query = q.append clause
  | .inspect => report.calls = [] ∧ report.result = .nothing ∧ report.query = q
  | .config => report.calls = [] ∧ report.result = .config q.config ∧ report.query = q
  | .execute =>
    report.calls = [.fetch q.build q.parameters] ∧
      report.result = .rows (answer.mapError q.config.errorMode.apply) ∧
      report.query.clauses = [] ∧ report.query.parameters = []
  | .executeWith read =>
    report.calls = [.fetch q.build q.parameters] ∧
      report.result = .readings (answer.mapError q.config.errorMode.apply >>= List.mapM read) ∧
      report.query.clauses = [] ∧ report.query.parameters = []
  | .close => report.calls = [.close] ∧ report.query = q

end Step

/-! ## Running a query -/

namespace Query

/-- Running empties the query, makes one call, and maps only the error of an answer. -/
theorem execute_spec {σ : Type} [Executor σ] (q : Query) (executor : σ) :
    (q.execute executor).query = q.cleared ∧
      (q.execute executor).reply.executor =
        (Executor.fetchAll executor q.build q.parameters).executor ∧
      (q.execute executor).reply.result =
        (Executor.fetchAll executor q.build q.parameters).result.mapError
          q.config.errorMode.apply := by
  cases h : (Executor.fetchAll executor q.build q.parameters).result with
  | ok rows => simp [execute, settle, h, Except.mapError]
  | error e => simp [execute, settle, h, Except.mapError]

end Query

/-- A fetch takes the next answer of a script and is recorded. -/
theorem Script.fetchAll_spec (script : Script) (sql : String) (params : List Value) :
    (Executor.fetchAll script sql params).result = script.nextAnswer ∧
      (Executor.fetchAll script sql params).executor.answers = script.answers.tail ∧
      (Executor.fetchAll script sql params).executor.calls =
        script.calls ++ [.fetch sql params] :=
  ⟨rfl, rfl, rfl⟩

namespace Session

variable {α : Type}

/-! ## One step -/

theorem setQuery_self (session : Session) (number : Nat) (query : Query) :
    session.setQuery number query number = query := if_pos rfl

theorem setQuery_queries (session : Session) (number : Nat) :
    session.setQuery number (session.queries number) = session.queries := by
  funext other
  by_cases h : other = number <;> simp [setQuery, h]

/-- What a step does to the session, and what the report on it says. -/
theorem step_spec (session : Session) (number : Nat) (action : Step α) :
    (session.step number action).1.queries =
        session.setQuery number (action.effect (session.queries number)) ∧
      (session.step number action).1.executor.answers =
        session.executor.answers.drop (if action.runs then 1 else 0) ∧
      (session.step number action).1.executor.calls =
        session.executor.calls ++ (session.step number action).2.calls ∧
      action.Reported (session.queries number) session.executor.nextAnswer
        (session.step number action).2 := by
  have hsame := session.setQuery_queries number
  obtain ⟨hquery, hexecutor, hresult⟩ := (session.queries number).execute_spec session.executor
  obtain ⟨hanswer, hanswers, hcalls⟩ := session.executor.fetchAll_spec
    (session.queries number).build (session.queries number).parameters
  rw [hanswer] at hresult
  cases action with
  | append clause =>
    refine ⟨rfl, rfl, ?_, List.drop_length, rfl, session.setQuery_self number _⟩
    simp [step, perform]
  | inspect =>
    refine ⟨hsame.symm, rfl, ?_, List.drop_length, rfl, rfl⟩
    simp [step, perform]
  | config =>
    refine ⟨hsame.symm, rfl, ?_, List.drop_length, rfl, rfl⟩
    simp [step, perform]
  | execute =>
    simp only [step, perform, hquery, hexecutor, hanswers, hcalls, hresult, setQuery_self,
      Step.effect, Step.runs, Step.Reported, List.drop_left]
    exact ⟨trivial, List.drop_one.symm, trivial, trivial, trivial, rfl, rfl⟩
  | executeWith read =>
    simp only [step, perform, Query.executeWith, hquery, hexecutor, hanswers, hcalls, hresult,
      setQuery_self, Step.effect, Step.runs, Step.Reported, List.drop_left]
    exact ⟨trivial, List.drop_one.symm, trivial, trivial, trivial, rfl, rfl⟩
  | close =>
    have hclose : (Executor.close session.executor).executor.calls =
      session.executor.calls ++ [.close] := rfl
    refine ⟨hsame.symm, rfl, ?_, List.drop_left, rfl⟩
    simp only [step, perform, hclose, List.drop_left]

/-! ## Whole runs -/

def after (session : Session) (steps : List (Nat × Step α)) : Session :=
  steps.foldl (fun session numbered => (session.step numbered.1 numbered.2).1) session

theorem after_concat (session : Session) (steps : List (Nat × Step α)) (number : Nat)
    (action : Step α) :
    session.after (steps ++ [(number, action)]) = ((session.after steps).step number action).1 := by
  simp [after]

theorem run_cons (session : Session) (number : Nat) (action : Step α)
    (rest : List (Nat × Step α)) :
    session.run ((number, action) :: rest) =
      (session.step number action).2 :: (session.step number action).1.run rest := rfl

/-- The report on a step is about the session after the steps before it. -/
theorem getElem?_run (session : Session) (before : List (Nat × Step α)) (number : Nat)
    (action : Step α) (rest : List (Nat × Step α)) :
    (session.run (before ++ (number, action) :: rest))[before.length]? =
      some ((session.after before).step number action).2 := by
  induction before generalizing session with
  | nil => rfl
  | cons first before ih =>
    rw [List.cons_append, run_cons, List.length_cons, List.getElem?_cons_succ, ih]
    rfl

def own (number : Nat) (steps : List (Nat × Step α)) : List (Step α) :=
  (steps.filter fun numbered => numbered.1 = number).map Prod.snd

/-- The clauses that were added to the query of this number since it last ran or, if it never did,
from the start. -/
def window (number : Nat) (steps : List (Nat × Step α)) : List Clause :=
  ((own number steps).rtakeWhile fun action => !action.runs).filterMap Step.clause?

def runCount (steps : List (Nat × Step α)) : Nat := steps.countP fun numbered => numbered.2.runs

theorem window_concat (number : Nat) (steps : List (Nat × Step α)) (action : Step α) :
    window number (steps ++ [(number, action)]) =
      if action.runs then [] else window number steps ++ action.clause?.toList := by
  have hown : own number (steps ++ [(number, action)]) = own number steps ++ [action] := by
    simp [own]
  rw [window, hown, List.rtakeWhile_concat]
  cases hruns : action.runs with
  | true => simp
  | false => cases hclause : action.clause? <;> simp [window, hclause]

theorem window_concat_other {number other : Nat} (h : other ≠ number)
    (steps : List (Nat × Step α)) (action : Step α) :
    window other (steps ++ [(number, action)]) = window other steps := by
  simp [window, own, h.symm]

/-- Each query holds what was added to it since it last ran, and every run has taken an answer. -/
structure Reached (script : Script) (configs : List QueryConfig) (steps : List (Nat × Step α))
    (session : Session) : Prop where
  queries : ∀ number, session.queries number =
    (window number steps).foldl Query.append (.withConfig (configs.getD number {}))
  answers : session.executor.answers = script.answers.drop (runCount steps)

theorem effect_foldl (config : QueryConfig) (clauses : List Clause) (action : Step α) :
    action.effect (clauses.foldl Query.append (.withConfig config)) =
      (if action.runs then [] else clauses ++ action.clause?.toList).foldl Query.append
        (.withConfig config) := by
  cases action with
  | append clause => simp [Step.effect, Step.runs, Step.clause?]
  | inspect => simp [Step.effect, Step.runs, Step.clause?]
  | config => simp [Step.effect, Step.runs, Step.clause?]
  | execute => simp [Step.effect, Step.runs, Query.foldl_append, Query.cleared, Query.withConfig]
  | executeWith read =>
    simp [Step.effect, Step.runs, Query.foldl_append, Query.cleared, Query.withConfig]
  | close => simp [Step.effect, Step.runs, Step.clause?]

theorem Reached.step {script : Script} {configs : List QueryConfig} {steps : List (Nat × Step α)}
    {session : Session} (h : Reached script configs steps session) (number : Nat)
    (action : Step α) :
    Reached script configs (steps ++ [(number, action)]) (session.step number action).1 := by
  obtain ⟨hqueries, hanswers, -, -⟩ := session.step_spec number action
  constructor
  · intro other
    rw [hqueries, setQuery]
    by_cases hother : other = number
    · subst hother
      rw [if_pos rfl, h.queries, effect_foldl, window_concat]
    · rw [if_neg hother, h.queries, window_concat_other hother]
  · rw [hanswers, h.answers, List.drop_drop, runCount, runCount, List.countP_append]
    simp

theorem reached_after (script : Script) (configs : List QueryConfig)
    (steps : List (Nat × Step α)) :
    Reached script configs steps ((start script configs).after steps) := by
  induction steps using List.reverseRecOn with
  | nil => exact ⟨fun _ => rfl, rfl⟩
  | append_singleton steps numbered ih =>
    obtain ⟨number, action⟩ := numbered
    rw [after_concat]
    exact ih.step number action

/-- **Queries accumulate.** A clause is written as the fragment of its kind and binds the values
that it was given. After any steps on any queries, each statement is made of the clauses added to
its own query since that last ran, and so are its parameters. The report on a step is about the
query just before it, the answer is the next of the script, and no other query changes. -/
theorem queries_accumulate (script : Script) (configs : List QueryConfig) :
    (∀ (clause : Clause) (text : String) (values : List Value),
      clause.Gives text values ↔ clause.text = text ∧ clause.values = values) ∧
    (∀ (steps : List (Nat × Step α)) (number : Nat),
      let q := ((start script configs).after steps).queries number
      q.build = " ".intercalate ((window number steps).map Clause.text) ∧
        q.parameters = (window number steps).flatMap Clause.values ∧
        q.config = configs.getD number {}) ∧
      ∀ (before : List (Nat × Step α)) (number : Nat) (action : Step α)
        (rest : List (Nat × Step α)),
        let session := (start script configs).after before
        let next := (start script configs).after (before ++ [(number, action)])
        ∃ report,
          ((start script configs).run (before ++ (number, action) :: rest))[before.length]? =
              some report ∧
            action.Reported (session.queries number)
              (script.answers.getD (runCount before) (.ok [])) report ∧
            next.executor.calls = session.executor.calls ++ report.calls ∧
            next.queries = session.setQuery number report.query := by
  refine ⟨fun clause text values => Clause.gives_iff, ?_, ?_⟩
  · intro steps number q
    have hq : q = (window number steps).foldl Query.append (.withConfig (configs.getD number {})) :=
      (reached_after script configs steps).queries number
    rw [hq, Query.foldl_append]
    exact ⟨rfl, rfl, rfl⟩
  · intro before number action rest session next
    have hnext : next = (session.step number action).1 := after_concat _ before number action
    have hanswer :
        session.executor.nextAnswer = script.answers.getD (runCount before) (.ok []) := by
      rw [Script.nextAnswer, (reached_after script configs before).answers]
      simp [List.headD_eq_head?_getD]
    obtain ⟨hqueries, -, hcalls, hreported⟩ := session.step_spec number action
    rw [hanswer] at hreported
    have hquery : (session.step number action).2.query =
        action.effect (session.queries number) := by
      show (session.step number action).1.queries number = _
      rw [hqueries, setQuery_self]
    refine ⟨_, getElem?_run _ before number action rest, hreported, ?_, ?_⟩
    · rw [hnext, hcalls]
    · rw [hnext, hqueries, hquery]

end Session

end SqlStatement
