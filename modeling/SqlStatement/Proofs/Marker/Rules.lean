import Mathlib.Data.List.Basic
import SqlStatement.Proofs.Marker.Numbering
import SqlStatement.Value.Basic

/-!
# Two rules for bare markers

The engine and the driver agree on written markers and differ on bare ones.

* The engine (`engineIndices`) gives a bare marker the index one past the largest index of any
  marker before it.
* The driver (`driverIndices`) gives a bare marker the index one past the number of bare markers
  before it.

Main statement, `driver_reads_engine_indices`: a statement that `number` has rewritten means to the
driver what the statement meant to the engine, marker by marker.
-/

namespace SqlStatement

def largest (earlier : List Nat) : Nat := earlier.foldr max 0

/-- The engine's rule; `earlier` are the indices of the markers before. -/
def engineIndices (earlier : List Nat) : List Marker → List Nat
  | [] => []
  | .written value :: ms => value :: engineIndices (value :: earlier) ms
  | .bare :: ms =>
    (1 + largest earlier) :: engineIndices ((1 + largest earlier) :: earlier) ms

/-- The driver's rule; `bareBefore` is the number of bare markers before. -/
def driverIndices (bareBefore : Nat) : List Marker → List Nat
  | [] => []
  | .written value :: ms => value :: driverIndices bareBefore ms
  | .bare :: ms => (1 + bareBefore) :: driverIndices (bareBefore + 1) ms

/-- The parameter that an index refers to, if there is one. Indices count from 1. -/
def parameterAt (params : List Value) : Nat → Option Value
  | 0 => none
  | index + 1 => params[index]?

/-- The index of a written marker is in range. -/
def Marker.fits : Marker → Bool
  | .written value => decide (value < indexLimit)
  | .bare => true

/-- The engine's rule needs no more of the markers before than their largest index. -/
theorem engineIndices_eq_indices (earlier : List Nat) (ms : List Marker)
    (hfit : ∀ m ∈ ms, m.fits = true) :
    engineIndices earlier ms = indices (largest earlier) ms := by
  induction ms generalizing earlier with
  | nil => rfl
  | cons m ms ih =>
    have hrest : ∀ m ∈ ms, m.fits = true := fun n hn => hfit n (by simp [hn])
    cases m with
    | written value =>
      have hvalue : value < Marker.indexLimit := by simpa [Marker.fits] using hfit (.written value)
      have hlargest : largest (value :: earlier) = max (largest earlier) value := by
        simp [largest, Nat.max_comm]
      simp [engineIndices, indices, Marker.index, hvalue, ih _ hrest, hlargest]
    | bare =>
      have hlargest : largest ((1 + largest earlier) :: earlier) = 1 + largest earlier := by
        simp only [largest, List.foldr_cons]
        omega
      have hmax : max (largest earlier) (largest earlier + 1) = 1 + largest earlier := by omega
      rw [engineIndices, ih _ hrest, hlargest, indices, Marker.index, hmax, Nat.add_comm 1]

/-- Once every bare marker has its index, the driver has nothing to count. -/
theorem driverIndices_assign (bareBefore highest : Nat) (ms : List Marker)
    (hfit : ∀ m ∈ ms, m.fits = true) :
    driverIndices bareBefore (assign highest ms) = indices highest ms := by
  induction ms generalizing highest with
  | nil => rfl
  | cons m ms ih =>
    have hrest : ∀ m ∈ ms, m.fits = true := fun n hn => hfit n (by simp [hn])
    cases m with
    | written value =>
      have hvalue : value < Marker.indexLimit := by simpa [Marker.fits] using hfit (.written value)
      simp [assign, Marker.assigned, driverIndices, indices, Marker.index, hvalue, ih _ hrest]
    | bare => simp [assign, Marker.assigned, driverIndices, indices, Marker.index, ih _ hrest]

/-- Numbering reconciles the two rules: the driver reads in the rewritten statement the indices that
the engine reads in the statement, marker by marker and in the same order. No bare marker is left,
and with any parameters every marker refers to the same parameter, or to none, in both. -/
theorem driver_reads_engine_indices {sql : String} {numbered : Numbered}
    (hfit : ∀ m ∈ rawMarkers sql, m.fits = true) (h : number sql = .ok numbered) :
    driverIndices 0 (rawMarkers numbered.text) = engineIndices [] (rawMarkers sql) ∧
      .bare ∉ rawMarkers numbered.text ∧
      ∀ params : List Value,
        (driverIndices 0 (rawMarkers numbered.text)).map (parameterAt params) =
          (engineIndices [] (rawMarkers sql)).map (parameterAt params) := by
  obtain ⟨-, rfl⟩ := (number_eq_ok_iff sql numbered).mp h
  have hagree : driverIndices 0 (rawMarkers (numberedFrom 0 sql)) =
      engineIndices [] (rawMarkers sql) := by
    rw [rawMarkers_numberedFrom, driverIndices_assign 0 0 _ hfit,
      engineIndices_eq_indices [] _ hfit]
    rfl
  refine ⟨hagree, ?_, ?_⟩
  · rw [rawMarkers_numberedFrom]
    exact bare_not_mem_assign 0 _
  · intro params
    rw [hagree]

/-- Gaps, a smaller index behind a larger one, a literal and a comment. -/
theorem driver_reads_engine_indices_mixed :
    (∀ m ∈ rawMarkers "?5, ?, '?', $2 -- ?\n, ?", m.fits = true) ∧
      number "?5, ?, '?', $2 -- ?\n, ?" = .ok ⟨"?5, ?6, '?', $2 -- ?\n, ?7", true⟩ ∧
      driverIndices 0 (rawMarkers "?5, ?6, '?', $2 -- ?\n, ?7") =
        engineIndices [] (rawMarkers "?5, ?, '?', $2 -- ?\n, ?") := by
  have hfit : ∀ m ∈ rawMarkers "?5, ?, '?', $2 -- ?\n, ?", m.fits = true := by decide +kernel
  have hnumber : number "?5, ?, '?', $2 -- ?\n, ?" =
      .ok ⟨"?5, ?6, '?', $2 -- ?\n, ?7", true⟩ := by decide +kernel
  exact ⟨hfit, hnumber, (driver_reads_engine_indices hfit hnumber).1⟩

end SqlStatement
