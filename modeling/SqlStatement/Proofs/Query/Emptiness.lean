import SqlStatement.Proofs.Query.History

/-!
# Empty queries

A query whose statement is empty binds nothing. Every method that adds to a query adds one text, and
no such text is empty, however empty its arguments are (`Clause.text_ne_empty`); running a query
takes everything out of it. So it is enough to count the calls that added to a query since it last
ran (`Query.Reached`).

* `Query.adds_iff`: the methods that add to a query are those that append a clause to it.
* `Query.Reached.holds`: what every call keeps, whatever an executor does.
* `Query.Reached.isEmpty_iff_build`: a query is empty exactly if its statement is, and exactly if
  nothing was added since it last ran.
* `Session.queries_reached`: the queries of a session are among those that callers come to.
-/

namespace SqlStatement

/-! ## Texts -/

theorem append_ne_empty {s t : String} (h : s ≠ "" ∨ t ≠ "") : s ++ t ≠ "" := by
  rw [Ne, String.append_eq_empty_iff]
  rintro ⟨rfl, rfl⟩
  rcases h with h | h <;> exact h rfl

/-- Every clause has words of its own, whatever its caller gives. -/
theorem Clause.text_ne_empty (clause : Clause) : clause.text ≠ "" := by
  cases clause with
  | select columns => exact append_ne_empty (.inl (by decide))
  | fromTable table => exact append_ne_empty (.inl (by decide))
  | filter predicate values => exact append_ne_empty (.inl (by decide))
  | insertInto table fields values => exact append_ne_empty (.inr (by decide))
  | update table => exact append_ne_empty (.inl (by decide))
  | set fields values => exact append_ne_empty (.inl (by decide))
  | deleteFrom table => exact append_ne_empty (.inl (by decide))
  | join kind table condition =>
    exact append_ne_empty (.inl (append_ne_empty (.inr (by decide))))
  | orderBy column direction =>
    exact append_ne_empty (.inl (append_ne_empty (.inr (by decide))))
  | limit count => exact append_ne_empty (.inl (by decide))
  | offset count => exact append_ne_empty (.inl (by decide))

/-- Texts that are not empty give an empty text only if there are none. -/
theorem intercalate_eq_empty_iff {sep : String} {texts : List String}
    (h : ∀ text ∈ texts, text ≠ "") : sep.intercalate texts = "" ↔ texts = [] := by
  cases texts with
  | nil => simp
  | cons first rest =>
    have hfirst : first ≠ "" := h first List.mem_cons_self
    cases rest with
    | nil => simpa using hfirst
    | cons second rest => simp [hfirst]

namespace Query

/-! ## Adding to a query -/

/-- A method that adds to a query makes `q'` of `q`. -/
inductive Adds (q : Query) : Query → Prop
  | select {γ : Type} [ToColumns γ] (columns : γ) : Adds q (q.select columns)
  | fromTable (table : String) : Adds q (q.fromTable table)
  | filter {ν : Type} [ToValue ν] (predicate : String) (values : List ν) :
      Adds q (q.filter predicate values)
  | insertInto {γ ν : Type} [ToColumns γ] [ToValue ν] (table : String) (fields : γ)
      (values : List ν) : Adds q (q.insertInto table fields values)
  | update (table : String) : Adds q (q.update table)
  | set {γ ν : Type} [ToColumns γ] [ToValue ν] (fields : γ) (values : List ν) :
      Adds q (q.set fields values)
  | deleteFrom (table : String) : Adds q (q.deleteFrom table)
  | join (kind : JoinKind) (table condition : String) : Adds q (q.join kind table condition)
  | orderBy (column : String) (direction : SortDirection) : Adds q (q.orderBy column direction)
  | limit (count : UInt64) : Adds q (q.limit count)
  | offset (count : UInt64) : Adds q (q.offset count)

theorem adds_iff {q q' : Query} : q.Adds q' ↔ ∃ clause, q' = q.append clause := by
  constructor
  · intro h
    cases h <;> exact ⟨_, rfl⟩
  · rintro ⟨clause, rfl⟩
    -- A list of names stands for itself, and so does a value.
    have hvalues : ∀ values : List Value, values.map toValue = values := List.map_id
    cases clause with
    | select columns => exact .select columns
    | fromTable table => exact .fromTable table
    | filter predicate values => exact hvalues values ▸ .filter predicate values
    | insertInto table fields values => exact hvalues values ▸ .insertInto table fields values
    | update table => exact .update table
    | set fields values => exact hvalues values ▸ .set fields values
    | deleteFrom table => exact .deleteFrom table
    | join kind table condition => exact .join kind table condition
    | orderBy column direction => exact .orderBy column direction
    | limit count => exact .limit count
    | offset count => exact .offset count

/-! ## Calls on a query -/

/-- Queries that callers come to, the executor that they are run on, and how many calls have added
to the query since it last ran. -/
inductive Reached {σ : Type} [Executor σ] : Query → σ → Nat → Prop
  | new (config : QueryConfig) (executor : σ) : Reached (.withConfig config) executor 0
  | add {q q' : Query} {executor : σ} {added : Nat} (h : Reached q executor added)
      (hadds : q.Adds q') : Reached q' executor (added + 1)
  | execute {q : Query} {executor : σ} {added : Nat} (h : Reached q executor added) :
      Reached (q.execute executor).query (q.execute executor).reply.executor 0
  /-- Reading the rows as a type (`executeAs`) is one of the ways to read them. -/
  | executeWith {q : Query} {executor : σ} {added : Nat} {α : Type} (read : Row → Except Error α)
      (h : Reached q executor added) :
      Reached (q.executeWith read executor).query (q.executeWith read executor).reply.executor 0
  | close {q : Query} {executor : σ} {added : Nat} (h : Reached q executor added) :
      Reached q (Executor.close executor).executor added
  /-- Other queries use the executor in the meantime. -/
  | elsewhere {q : Query} {executor : σ} {added : Nat} (h : Reached q executor added)
      (executor' : σ) : Reached q executor' added

/-- What a query holds after so many calls that added to it. -/
structure Holds (q : Query) (added : Nat) : Prop where
  count : q.clauses.length = added
  clauses : ∀ text ∈ q.clauses, text ≠ ""
  parameters : added = 0 → q.parameters = []

theorem holds_cleared (q : Query) : q.cleared.Holds 0 :=
  ⟨rfl, by simp [cleared, withConfig], fun _ => rfl⟩

theorem Holds.add {q q' : Query} {added : Nat} (h : q.Holds added) (hadds : q.Adds q') :
    q'.Holds (added + 1) := by
  obtain ⟨clause, rfl⟩ := adds_iff.mp hadds
  constructor
  · simp [append, h.count]
  · intro text htext
    rcases List.mem_append.mp htext with htext | htext
    · exact h.clauses text htext
    · rw [List.mem_singleton.mp htext]
      exact clause.text_ne_empty
  · intro hzero
    cases hzero

namespace Reached

variable {σ : Type} [Executor σ] {q : Query} {executor : σ} {added : Nat}

/-- Each call keeps the count, whatever the executor answers. -/
theorem holds (h : Reached q executor added) : q.Holds added := by
  induction h with
  | new config executor => exact holds_cleared (.withConfig config)
  | add _ hadds ih => exact ih.add hadds
  | execute _ ih =>
    rw [(execute_spec _ _).1]
    exact holds_cleared _
  | executeWith read _ ih =>
    rw [Query.executeWith, (execute_spec _ _).1]
    exact holds_cleared _
  | close _ ih => exact ih
  | elsewhere _ _ ih => exact ih

end Reached

end Query

/-! ## Sessions -/

namespace Session

variable {α : Type}

/-- After any steps on any queries of a session, each of them is one that callers come to. -/
theorem queries_reached (script : Script) (configs : List QueryConfig)
    (steps : List (Nat × Step α)) (number : Nat) :
    Query.Reached (((start script configs).after steps).queries number)
      ((start script configs).after steps).executor (window number steps).length := by
  induction steps using List.reverseRecOn with
  | nil => exact .new (configs.getD number {}) script
  | append_singleton steps numbered ih =>
    obtain ⟨other, action⟩ := numbered
    generalize hsession : (start script configs).after steps = session at ih
    obtain ⟨hqueries, -, -, -⟩ := session.step_spec other action
    rw [after_concat, hsession, hqueries, setQuery]
    by_cases hother : number = other
    · subst hother
      have hlength : (window number (steps ++ [(number, action)])).length =
          if action.runs then 0
          else (window number steps).length + action.clause?.toList.length := by
        rw [window_concat]
        split
        · rfl
        · exact List.length_append
      rw [if_pos rfl, hlength]
      cases action with
      | append clause => exact ih.add (Query.adds_iff.mpr ⟨clause, rfl⟩)
      | inspect | config => exact ih
      | execute => exact ih.execute
      | executeWith read => exact ih.executeWith read
      | close => exact ih.close
    · rw [if_neg hother, window_concat_other hother]
      exact ih.elsewhere _

end Session

/-! ## Empty statements -/

namespace Query

/-- **No query hides parameters behind an empty statement.** Whatever callers do with a query, it is
empty exactly if its statement is empty, and this is so exactly if nothing was added to it since it
last ran; then it binds nothing. -/
theorem Reached.isEmpty_iff_build {σ : Type} [Executor σ] {q : Query} {executor : σ} {added : Nat}
    (h : Reached q executor added) :
    (q.isEmpty = true ↔ q.build = "") ∧ (q.build = "" ↔ added = 0) ∧
      (q.build = "" → q.parameters = []) := by
  obtain ⟨hcount, hclauses, hparameters⟩ := h.holds
  have hbuild : q.build = "" ↔ added = 0 := by
    rw [build, intercalate_eq_empty_iff hclauses, ← hcount, List.length_eq_zero_iff]
  have hempty : q.isEmpty = true ↔ added = 0 := by
    rw [isEmpty, Bool.and_eq_true, List.isEmpty_iff, List.isEmpty_iff, ← List.length_eq_zero_iff,
      hcount]
    constructor
    · intro hboth
      exact hboth.1
    · intro hzero
      exact ⟨hzero, hparameters hzero⟩
  refine ⟨hempty.trans hbuild.symm, hbuild, ?_⟩
  intro hnone
  exact hparameters (hbuild.mp hnone)

/-- A row of one value is inserted, without a table and without fields; then another query is begun,
and none of no fields is set to a value. -/
def emptyTexts : List (Nat × Step Unit) :=
  [(0, .append (.insertInto "" [] [.null])), (0, .execute), (1, .append (.fromTable "")),
    (0, .append (.set [] [.integer 1]))]

/-- The first query is empty after its execution failed, and not any more with a text of no
fields. -/
theorem isEmpty_iff_build_emptyTexts :
    let script : Script := { answers := [.error (.database .poolClosed)] }
    let failed := (Session.start script []).after (emptyTexts.take 3)
    let refilled := (Session.start script []).after emptyTexts
    (Reached (failed.queries 0) failed.executor 0 ∧ (failed.queries 0).isEmpty = true ∧
      (failed.queries 0).build = "" ∧ (failed.queries 0).parameters = []) ∧
    (Reached (refilled.queries 0) refilled.executor 1 ∧ (refilled.queries 0).isEmpty = false ∧
      (refilled.queries 0).build = "SET " ∧ (refilled.queries 0).parameters = [.integer 1]) := by
  intro script failed refilled
  have hfailed : Reached (failed.queries 0) failed.executor 0 :=
    Session.queries_reached script [] (emptyTexts.take 3) 0
  have hrefilled : Reached (refilled.queries 0) refilled.executor 1 :=
    Session.queries_reached script [] emptyTexts 0
  obtain ⟨hempty, hbuild, hparameters⟩ := hfailed.isEmpty_iff_build
  obtain ⟨hempty', hbuild', -⟩ := hrefilled.isEmpty_iff_build
  have hnone : (failed.queries 0).build = "" := hbuild.mpr rfl
  have hsome : (refilled.queries 0).build ≠ "" := by
    rw [Ne, hbuild']
    decide
  refine ⟨⟨hfailed, hempty.mpr hnone, hnone, hparameters hnone⟩, hrefilled, ?_, ?_, ?_⟩
  · rw [← Bool.not_eq_true, hempty']
    exact hsome
  · decide +kernel
  · decide +kernel

end Query

end SqlStatement
