import Mathlib.Data.List.Forall2
import SqlStatement.Proofs.Decode.Basic
import SqlStatement.Sqlite.Executor
import SqlStatement.Sqlite.Storage

/-!
# What a driver is relied on for

The executor numbers markers, binds values and reads cells; what stands between the argument that it
binds and the cell that it reads is the driver's. `SqlitePool.KeepsArguments` says what is relied on
there: a variable receives the argument of its index, and selecting it gives the content and the
storage class that it was bound with, where a NaN is null.

* `SqliteRow.valueAt_of_shows`: a cell is read by what the driver shows of it.
* `SqliteRow.toRow_eq_ok_iff`: a row is read if each of its cells is.
* `SqlitePool.KeepsArguments.valueAt_received`: what binding made of a value, reading takes back.
-/

namespace SqlStatement

/-! ## Rows -/

def Value.ofCell : Cell → Value
  | .null => .null
  | .integer n => .integer n
  | .real x => .real x
  | .text s => .text s
  | .blob bytes => .blob bytes

namespace SqliteRow

variable {ρ : Type} [SqliteRow ρ]

/-- The driver tells the storage class of the cell in this place, and reads the content when it is
asked for the type of this class. Of a null it may tell any name, of an integer that it is a
boolean, and of a text any name that no other class has. -/
def Shows (row : ρ) (place : Nat) : Cell → Prop
  | .null => ∃ typeName, rawAt row place = .ok ⟨true, typeName⟩
  | .integer n => ∃ typeName ∈ ["INTEGER", "BOOLEAN"],
      rawAt row place = .ok ⟨false, typeName⟩ ∧ int64At row place = .ok n
  | .real x => rawAt row place = .ok ⟨false, "REAL"⟩ ∧ doubleAt row place = .ok x
  | .text s => ∃ typeName ∉ ["INTEGER", "BOOLEAN", "REAL", "BLOB"],
      rawAt row place = .ok ⟨false, typeName⟩ ∧ textAt row place = .ok s
  | .blob bytes => rawAt row place = .ok ⟨false, "BLOB"⟩ ∧ bytesAt row place = .ok bytes

theorem valueAt_of_raw {row : ρ} {place : Nat} {raw : RawCell} (hraw : rawAt row place = .ok raw) :
    valueAt row place =
      if raw.isNull then .ok .null
      else
        match raw.typeName with
        | "INTEGER" | "BOOLEAN" => (int64At row place).map .integer
        | "REAL" => (doubleAt row place).map .real
        | "BLOB" => (bytesAt row place).map .blob
        | _ => (textAt row place).map .text := by
  rw [valueAt, hraw]
  rfl

/-- What the driver shows of a cell is what is read from it. -/
theorem valueAt_of_shows {row : ρ} {place : Nat} {cell : Cell} (h : Shows row place cell) :
    valueAt row place = .ok (.ofCell cell) := by
  cases cell with
  | null =>
    obtain ⟨typeName, hraw⟩ := h
    simp [valueAt_of_raw hraw, Value.ofCell]
  | integer n =>
    obtain ⟨typeName, hname, hraw, hread⟩ := h
    simp only [List.mem_cons, List.not_mem_nil, or_false] at hname
    rcases hname with rfl | rfl <;> simp [valueAt_of_raw hraw, hread, Except.map, Value.ofCell]
  | real x =>
    obtain ⟨hraw, hread⟩ := h
    simp [valueAt_of_raw hraw, hread, Except.map, Value.ofCell]
  | text s =>
    obtain ⟨typeName, hname, hraw, hread⟩ := h
    simp only [List.mem_cons, List.not_mem_nil, or_false, not_or] at hname
    obtain ⟨hinteger, hboolean, hreal, hblob⟩ := hname
    -- None of the names fits, so the last arm is taken.
    simp [valueAt_of_raw hraw, hread, Except.map, Value.ofCell]
  | blob bytes =>
    obtain ⟨hraw, hread⟩ := h
    simp [valueAt_of_raw hraw, hread, Except.map, Value.ofCell]

theorem foldlM_pushCell_eq_ok_iff {row : ρ} {columns : List SqliteColumn} {out after : Row} :
    columns.foldlM (pushCell row) out = .ok after ↔
      ∃ values, List.Forall₂ (fun column v => valueAt row column.ordinal = .ok v) columns values ∧
        after = ⟨out.cells ++ (columns.map SqliteColumn.name).zip values⟩ := by
  induction columns generalizing out with
  | nil => simp [pure, Except.pure, eq_comm]
  | cons column rest ih =>
    rw [List.foldlM_cons, Except.bind_eq_ok_iff]
    constructor
    · rintro ⟨next, hnext, hrest⟩
      obtain ⟨v, hv, hpush⟩ := Except.bind_eq_ok_iff.mp hnext
      obtain ⟨values, hvalues, rfl⟩ := ih.mp hrest
      cases hpush
      exact ⟨v :: values, .cons hv hvalues, by simp [Row.push]⟩
    · rintro ⟨values, hvalues, rfl⟩
      cases hvalues with
      | @cons _ v _ values hv hvalues =>
        refine ⟨out.push column.name v, Except.bind_eq_ok_iff.mpr ⟨v, hv, rfl⟩, ih.mpr ?_⟩
        exact ⟨values, hvalues, by simp [Row.push]⟩

/-- A row is read exactly if each of its cells is, and it has these under the names of their
columns. -/
theorem toRow_eq_ok_iff {row : ρ} {out : Row} :
    toRow row = .ok out ↔
      ∃ values,
        List.Forall₂ (fun column v => valueAt row column.ordinal = .ok v) (columns row) values ∧
          out = .ofLists ((columns row).map SqliteColumn.name) values :=
  foldlM_pushCell_eq_ok_iff

end SqliteRow

/-! ## Arguments -/

namespace Value

/-- The value as it is read back: a boolean as an integer, and a NaN as null. -/
def stored : Value → Value
  | .bool b => .integer (ofBool b)
  | .real x => if x.isNaN then .null else .real x
  | v => v

end Value

namespace SqlitePool

/-- What is relied on of a driver and its engine, where `Received row place argument` says that this
cell of the row was selected from a variable that received the argument. -/
structure KeepsArguments (π : Type) {ρ : Type} [SqliteRow ρ] [SqlitePool π ρ]
    (Received : ρ → Nat → Argument → Prop) : Prop where
  /-- Within the limits of the engine, a selection of variables has one row, with the columns in
  order. The variable `?k` receives the argument in the place `k`. -/
  receives : ∀ (pool : π) (args : List Argument) (indices : List Nat),
    isClosed pool = false → indices ≠ [] → indices.length ≤ maxColumns →
    args.length ≤ maxVariables → (∀ arg ∈ args, arg.byteCount ≤ maxBytes) →
    (∀ index ∈ indices, 1 ≤ index ∧ index ≤ args.length) →
    ∃ (row : ρ) (after : π),
      fetchAll pool (Clause.select (indices.map Clause.marker)).text args = (.ok [row], after) ∧
        isClosed after = false ∧
        (SqliteRow.columns row).map SqliteColumn.ordinal = List.range indices.length ∧
        ∀ place index arg, indices[place]? = some index → args[index - 1]? = some arg →
          Received row place arg
  /-- What was bound comes back with its storage class and its content. -/
  content : ∀ (row : ρ) (place : Nat) (arg : Argument), Received row place arg →
    (∀ x, arg = .double x → x.isNaN = false) → SqliteRow.Shows row place arg.content
  /-- A NaN comes back as null. -/
  nan : ∀ (row : ρ) (place : Nat) (x : Binary64), Received row place (.double x) →
    x.isNaN = true → SqliteRow.Shows row place .null

variable {π ρ : Type} [SqliteRow ρ] [SqlitePool π ρ] {Received : ρ → Nat → Argument → Prop}

/-- A cell that comes of a value is read as the value is stored. -/
theorem KeepsArguments.valueAt_received (h : KeepsArguments π Received) {row : ρ} {place : Nat}
    {v : Value} (hreceived : Received row place v.argument) :
    SqliteRow.valueAt row place = .ok v.stored := by
  by_cases hnan : ∃ x, v = .real x ∧ x.isNaN = true
  · obtain ⟨x, rfl, hx⟩ := hnan
    rw [SqliteRow.valueAt_of_shows (h.nan row place x hreceived hx), Value.stored, if_pos hx]
    rfl
  · have hcontent : SqliteRow.Shows row place v.argument.content := by
      refine h.content row place v.argument hreceived fun x hx => ?_
      cases v with
      | real y =>
        cases hx
        simpa using hnan
      | _ => cases hx
    rw [SqliteRow.valueAt_of_shows hcontent]
    cases v with
    | real x => simp_all [Value.stored, Value.argument, Argument.content, Value.ofCell]
    | null | bool b | integer n | text s | blob bytes => rfl

end SqlitePool

end SqlStatement
