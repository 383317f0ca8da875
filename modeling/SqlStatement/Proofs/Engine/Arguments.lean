import SqlStatement.Engine.Basic
import SqlStatement.Proofs.Engine.Binding
import SqlStatement.Proofs.Sqlite.Arguments

/-!
# The stand-in keeps its arguments

A pool of the stand-in answers a selection of variables with one row (`Pool.run_selection`), in
which each cell is the argument of its index. So it keeps what a driver is relied on for
(`Pool.keepsArguments`).
-/

namespace SqlStatement

namespace Pool

/-- A selection of variables has one row and changes nothing. -/
theorem run_selection {pool : Pool} {args : List Argument} {indices : List Nat}
    (hopen : pool.isClosed = false) (hne : indices ≠ []) (hcolumns : indices.length ≤ maxColumns)
    (hargs : args.length ≤ maxVariables)
    (hindices : ∀ index ∈ indices, 1 ≤ index ∧ index ≤ args.length) :
    pool.run (Clause.select (indices.map Clause.marker)).text args =
      (.ok [(indices.map Clause.marker).zip (indices.map (Binding.cellAt args))], pool) := by
  obtain ⟨index, rest, rfl⟩ := List.exists_cons_of_ne_nil hne
  have hnul := nul_not_mem_selection index rest
  have hanswer : (Statement.ofTokens (Token.select :: Token.marker index :: Token.further rest) >>=
      pool.answer args) =
        .ok ([((index :: rest).map Clause.marker).zip
          ((index :: rest).map (Binding.cellAt args))], pool) := by
    rw [Statement.ofTokens_selection]
    show (Selection.rows _ args).map _ = _
    rw [Selection.rows_markers hcolumns hargs hindices]
    rfl
  rw [run, hopen, if_neg Bool.false_ne_true, if_neg (by simpa using hnul),
    Text.trim_selection index rest, Statement.split_selection index rest, runAll, hanswer]
  rfl

/-- The cell in this place is what the argument is kept as. -/
def Received (row : CellRow) (place : Nat) (arg : Argument) : Prop :=
  ∃ name, row[place]? = some (name, arg.cell)

theorem ordinals (row : CellRow) :
    (SqliteRow.columns row).map SqliteColumn.ordinal = List.range row.length := by
  apply List.ext_getElem
  · simp [SqliteRow.columns]
  · intro place hplace hrange
    simp [SqliteRow.columns]

theorem shows_of_getElem? {row : CellRow} {place : Nat} {name : String} {cell : Cell}
    (h : row[place]? = some (name, cell)) : SqliteRow.Shows row place cell := by
  have hread : ∀ {α : Type} (read : Cell → Option α) {a : α}, read cell = some a →
      CellRow.readAt read row place = .ok a := by
    intro α read a ha
    simp only [CellRow.readAt, h, ha]
  cases cell with
  | null => exact ⟨_, hread _ rfl⟩
  | integer n => exact ⟨"INTEGER", by decide, hread _ rfl, hread _ rfl⟩
  | real x => exact ⟨hread _ rfl, hread _ rfl⟩
  | text s => exact ⟨"TEXT", by decide, hread _ rfl, hread _ rfl⟩
  | blob bytes => exact ⟨hread _ rfl, hread _ rfl⟩

theorem cell_eq_content {arg : Argument} (h : ∀ x, arg = .double x → x.isNaN = false) :
    arg.cell = arg.content := by
  cases arg with
  | double x => rw [Argument.cell, h x rfl]; rfl
  | absent | bool b | int64 n | text s | blob bytes => rfl

theorem keepsArguments : SqlitePool.KeepsArguments Pool Received where
  receives pool args indices hopen hne hcolumns hargs _ hindices := by
    refine ⟨_, pool, run_selection hopen hne hcolumns hargs hindices, hopen, ?_, ?_⟩
    · rw [ordinals, List.length_zip, List.length_map, List.length_map, Nat.min_self]
    · intro place index arg hindex harg
      refine ⟨Clause.marker index, ?_⟩
      rw [List.getElem?_zip_eq_some]
      simp [hindex, Binding.cellAt, harg]
  content row place arg hreceived hnan := by
    obtain ⟨name, hcell⟩ := hreceived
    rw [cell_eq_content hnan] at hcell
    exact shows_of_getElem? hcell
  nan row place x hreceived hnan := by
    obtain ⟨name, hcell⟩ := hreceived
    rw [Argument.cell, if_pos hnan] at hcell
    exact shows_of_getElem? hcell

end Pool

end SqlStatement
