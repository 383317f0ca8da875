import Mathlib.Tactic.SplitIfs
import SqlStatement.Config.Modes

/-!
# Handling an error again and again

On its way to a caller an error can be folded or reported under an error mode any number of times
(`Handling`). Only the first handling that folds can change it, since a query execution error stays
as it is from then on (`handled_eq`).

What lies behind an error is met by following `Error.source` step by step (`Follows`).

* `follows_source_iff`: this meets exactly the texts of `Error.sources`.
* `handling_folds_once`: however often an error is handled, at most one layer is laid around it, and
  everything that lay behind it is still met.
-/

namespace SqlStatement

namespace Error

/-! ## What lies behind an error -/

/-- Following the sources from this one on meets these display texts and then comes to an end. -/
inductive Follows : Option Source → List String → Prop
  | nothing : Follows none []
  | next {source : Source} {texts : List String} (h : Follows source.source texts) :
      Follows (some source) (source.message :: texts)

theorem Follows.unique {source : Option Source} {texts texts' : List String}
    (h : Follows source texts) (h' : Follows source texts') : texts = texts' := by
  induction h generalizing texts' with
  | nothing => cases h'; rfl
  | next h ih =>
    cases h' with
    | next h' => rw [ih h']

theorem follows_foreign (text : String) (sources : List String) :
    Follows (some (.foreign text sources)) (text :: sources) := by
  induction sources generalizing text with
  | nil => exact .next .nothing
  | cons next sources ih => exact .next (ih next)

/-- The recursion follows the nesting of query execution errors. -/
theorem follows_source : ∀ e : Error, Follows e.source e.sources
  | .database cause => follows_foreign cause.message cause.sources
  | .queryExecution _ (some source) => .next (follows_source source)
  | .queryExecution _ none => .nothing
  | .serialization cause => follows_foreign cause.message cause.sources
  | .config _ => .nothing

theorem follows_source_iff {e : Error} {texts : List String} :
    Follows e.source texts ↔ texts = e.sources := by
  constructor
  · intro h
    exact h.unique (follows_source e)
  · rintro rfl
    exact follows_source e

/-! ## Handling an error -/

inductive Handling where
  | fold
  | report (mode : ErrorMode)
  deriving DecidableEq

def Handling.apply : Handling → Error → Error
  | .fold, e => e.intoQueryExecution
  | .report mode, e => mode.apply e

/-- The error after it was handled in these ways, one after the other. -/
def handled (e : Error) (handlings : List Handling) : Error :=
  handlings.foldl (fun e handling => handling.apply e) e

theorem intoQueryExecution_eq (e : Error) :
    e.intoQueryExecution =
      if e.isQueryExecution = true then e else .queryExecution queryExecutionFailed (some e) := by
  cases e <;> rfl

/-- What one handling does. -/
theorem Handling.apply_eq (handling : Handling) (e : Error) :
    handling.apply e =
      if e.isQueryExecution = true ∨ handling = .report .propagate then e
      else .queryExecution queryExecutionFailed (some e) := by
  rcases handling with _ | mode
  · simp [apply, intoQueryExecution_eq]
  · cases mode with
    | wrap => simp [apply, ErrorMode.apply, intoQueryExecution_eq]
    | propagate => simp [apply, ErrorMode.apply]

/-- A query execution error stays as it is, however often it is handled. -/
theorem handled_of_isQueryExecution {e : Error} (h : e.isQueryExecution = true)
    (handlings : List Handling) : e.handled handlings = e := by
  induction handlings with
  | nil => rfl
  | cons handling handlings ih =>
    have hfirst : handling.apply e = e := by rw [Handling.apply_eq, if_pos (.inl h)]
    rw [handled, List.foldl_cons, hfirst]
    exact ih

/-- What any number of handlings do together. -/
theorem handled_eq (e : Error) (handlings : List Handling) :
    e.handled handlings =
      if e.isQueryExecution = true ∨ ∀ handling ∈ handlings, handling = .report .propagate then e
      else .queryExecution queryExecutionFailed (some e) := by
  induction handlings with
  | nil => simp [handled]
  | cons handling handlings ih =>
    have hcons : e.handled (handling :: handlings) = (handling.apply e).handled handlings := rfl
    rw [hcons, Handling.apply_eq]
    by_cases h : e.isQueryExecution = true ∨ handling = .report .propagate
    · rw [if_pos h, ih]
      rcases h with h | rfl
      · simp [h]
      · simp
    · -- This handling folds, and those that follow leave the folded error alone.
      rw [if_neg h, handled_of_isQueryExecution rfl, if_neg]
      rintro (hexecution | hall)
      · exact h (.inl hexecution)
      · exact h (.inr (hall handling List.mem_cons_self))

/-- **An error is folded at most once, and nothing behind it is lost.** However often and in
whatever order an error is folded and reported under error modes, it stays as it is if it already is
a query execution error or is only ever propagated. Otherwise it comes out as one query execution
error with the fixed text, whose cause it is. Following the sources of what comes out meets what was
met before, and in the second case the error's own display text in front of it. -/
theorem handling_folds_once (e : Error) (handlings : List Handling) :
    let result := e.handled handlings
    if e.isQueryExecution = true ∨ ∀ handling ∈ handlings, handling = .report .propagate then
      result = e ∧ ∀ texts, Follows result.source texts ↔ Follows e.source texts
    else
      result = .queryExecution "Query execution failed" (some e) ∧ result.cause = some e ∧
        ∀ texts, Follows result.source texts ↔
          ∃ behind, Follows e.source behind ∧ texts = e.message :: behind := by
  intro result
  have hresult : result = _ := handled_eq e handlings
  split_ifs at hresult ⊢ with h
  · rw [hresult]
    exact ⟨rfl, fun _ => Iff.rfl⟩
  · rw [hresult]
    refine ⟨rfl, rfl, fun texts => ?_⟩
    simp only [follows_source_iff, exists_eq_left]
    rfl

end Error

end SqlStatement
