import SqlStatement.Proofs.Engine.Arguments
import SqlStatement.Proofs.Query.Clause
import SqlStatement.Row.Records
import SqlStatement.Value.Json

/-!
# What comes back from the engine

A value that is bound to a marker and selected again comes back as `Value.stored` says: a boolean as
an integer, a NaN as null, every other value as itself. This is so with every driver that keeps what
it is relied on for.

* `stored_stored`, `typeName_stored`, `asInt64?_stored`, `truth_stored`: what this keeps.
* `SelectsMarkers.numberedFrom_eq`: the markers can be written with their indices or bare.
* `SqliteExecutor.fetchAll_selection`: a selection of markers answers the parameters as they are
  stored.
* `SqliteExecutor.values_survive_storage`: all of this, and that a row that was answered is answered
  again.
-/

namespace SqlStatement

/-! ## Storing a value -/

namespace Value

theorem stored_stored (v : Value) : v.stored.stored = v.stored := by
  cases v with
  | real x =>
    cases hx : x.isNaN with
    | true => simp [stored, hx]
    | false => simp [stored, hx]
  | null | bool b | integer n | text s | blob bytes => rfl

theorem typeName_stored {v : Value} (h : ∀ x, v = .real x → x.isNaN = false) :
    v.stored.typeName = v.typeName := by
  cases v with
  | real x => simp [stored, h x rfl]
  | null | bool b | integer n | text s | blob bytes => rfl

theorem asInt64?_stored (v : Value) : v.stored.asInt64? = v.asInt64? := by
  cases v with
  | real x =>
    simp only [stored]
    split <;> rfl
  | null | bool b | integer n | text s | blob bytes => rfl

/-- Storing a value makes no text and no blob of it. -/
theorem byteCount_stored_le (v : Value) : v.stored.argument.byteCount ≤ v.argument.byteCount := by
  cases v with
  | real x =>
    simp only [stored]
    split <;> exact Nat.le_refl _
  | null | bool b | integer n | text s | blob bytes => exact Nat.le_refl _

/-- A stored boolean is read as the boolean that it was. -/
theorem truth_stored (b : Bool) :
    (decode (Value.bool b).stored.toJson : Except DecodeError Truth) = .ok ⟨b⟩ := by
  cases b <;> rfl

end Value

/-! ## Spelling the markers -/

/-- The text selects this many markers, all with their indices or all bare. -/
def SelectsMarkers (count : Nat) (sql : String) : Prop :=
  sql = (Clause.select (Clause.markers count)).text ∨
    sql = (Clause.select (List.replicate count "?")).text

/-- The markers of a clause have the indices from 1 on. -/
theorem Clause.markers_eq (count : Nat) : markers count = (List.range' 1 count).map marker := by
  simp [markers, List.range'_eq_map_range, Function.comp_def, Nat.add_comm 1]

/-- A bare marker gets the next index. -/
theorem numberedFrom_question (highest : Nat) :
    numberedFrom highest "?" = Clause.marker (highest + 1) ∧
      highestAfter highest (rawMarkers "?") = highest + 1 := by
  have hnumbered : ScanMode.plain.numbered highest "?".toList =
      '?' :: (toString (highest + 1)).toList := rfl
  constructor
  · rw [← String.toList_inj, toList_numberedFrom, hnumbered]
    simp [Clause.marker]
  · rw [show rawMarkers "?" = [.bare] by decide +kernel]
    simp [Marker.index]

theorem numberedAll_replicate (highest count : Nat) :
    numberedAll highest (List.replicate count "?") =
      (List.range' (highest + 1) count).map Clause.marker := by
  induction count generalizing highest with
  | zero => rfl
  | succ count ih =>
    obtain ⟨htext, hhighest⟩ := numberedFrom_question highest
    rw [List.replicate_succ, numberedAll, htext, hhighest, ih, List.range'_succ, List.map_cons]

/-- Markers that have their indices keep them. -/
theorem numberedFrom_select_markers {count : Nat} (hcount : count < Marker.indexLimit) :
    highestAfter 0 (rawMarkers (Clause.select (Clause.markers count)).text) = count ∧
      numberedFrom 0 (Clause.select (Clause.markers count)).text =
        (Clause.select (Clause.markers count)).text := by
  have hspans : Spans _ (Clause.select (Clause.markers count)).text :=
    (Clause.markers_span count).prepend
  constructor
  · rw [← highestAfter_markers, hspans.markers_eq]
    exact (Clause.indices_numbered count hcount).2
  · apply numberedFrom_of_not_bare
    rw [hspans.markers_eq]
    simp [Marker.ofIndex]

/-- Bare markers get the indices from 1 on. -/
theorem numberedFrom_select_bare (count : Nat) :
    highestAfter 0 (rawMarkers (Clause.select (List.replicate count "?")).text) = count ∧
      numberedFrom 0 (Clause.select (List.replicate count "?")).text =
        (Clause.select (Clause.markers count)).text := by
  have hmarker : Spans [.bare] "?" := ⟨by decide, by decide +kernel⟩
  have hspans : Spans (List.replicate count .bare)
      (Clause.select (List.replicate count "?")).text := by
    have hall : Spans ((List.range count).flatMap fun _ => [.bare])
        (Clause.commaSeparated ((List.range count).map fun _ => "?")) :=
      Clause.commaSeparated_spans (List.range count) fun _ _ => hmarker
    rw [← List.map_eq_flatMap, List.map_const', List.map_const', List.length_range] at hall
    exact hall.prepend
  have hclosed : ∀ text ∈ List.replicate count "?", Closed text := fun text htext =>
    List.eq_of_mem_replicate htext ▸ hmarker.closed
  constructor
  · rw [← highestAfter_markers, hspans.markers_eq, (Clause.indices_replicate_bare 0 count).2,
      Nat.zero_add]
  · -- The keyword is a separator behind an empty text.
    have hempty : Closed "" ∧ rawMarkers "" = [] ∧ numberedFrom 0 "" = "" := by decide +kernel
    have hsep : Separates "SELECT " := by decide
    have htext := numberedFrom_append hempty.1 hsep 0
      (Clause.commaSeparated (List.replicate count "?"))
    rw [hempty.2.1, hempty.2.2, Clause.commaSeparated, highestAfter_nil,
      numberedFrom_intercalate (by decide) 0 _ hclosed, numberedAll_replicate, ← Clause.markers_eq,
      String.empty_append] at htext
    exact htext

/-- However its markers are spelled, the selection is handed over with the indices from 1 on. -/
theorem SelectsMarkers.numberedFrom_eq {count : Nat} {sql : String} (h : SelectsMarkers count sql)
    (hcount : count < Marker.indexLimit) :
    highestAfter 0 (rawMarkers sql) = count ∧
      numberedFrom 0 sql = (Clause.select (Clause.markers count)).text := by
  rcases h with rfl | rfl
  · exact numberedFrom_select_markers hcount
  · exact numberedFrom_select_bare count

/-! ## Fetching the selection -/

namespace SqliteExecutor

variable {π ρ : Type} [SqliteRow ρ] [SqlitePool π ρ] {Received : ρ → Nat → Argument → Prop}

/-- A row whose cells come of these values, in this order, is read as they are stored. -/
theorem toRow_received (h : SqlitePool.KeepsArguments π Received) {row : ρ} {params : List Value}
    (hordinals : (SqliteRow.columns row).map SqliteColumn.ordinal = List.range params.length)
    (hreceived : ∀ place v, params[place]? = some v → Received row place v.argument) :
    ∃ out, SqliteRow.toRow row = .ok out ∧ out.values = params.map Value.stored := by
  have hcells : List.Forall₂
      (fun (column : SqliteColumn) v => SqliteRow.valueAt row column.ordinal = .ok v)
      (SqliteRow.columns row) (params.map Value.stored) := by
    rw [← List.forall₂_map_left_iff (f := SqliteColumn.ordinal)
      (R := fun place v => SqliteRow.valueAt row place = .ok v), hordinals,
      List.forall₂_map_right_iff, List.forall₂_iff_get]
    refine ⟨List.length_range, fun place hplace hplace' => ?_⟩
    have hv : params[place]? = some params[place] := List.getElem?_eq_getElem hplace'
    simpa using h.valueAt_received (hreceived place _ hv)
  have hlength : (SqliteRow.columns row).length = params.length := by
    simpa using congrArg List.length hordinals
  refine ⟨_, SqliteRow.toRow_eq_ok_iff.mpr ⟨_, hcells, rfl⟩, ?_⟩
  exact List.map_snd_zip (by simp [hlength])

/-- Where the driver answers rows that can be read, these are the answer. -/
theorem fetchAll_eq {executor : SqliteExecutor π} {sql : String} {params : List Value}
    {numbered : Numbered} {rows : List ρ} {after : π} {out : List Row}
    (hnumber : number sql = .ok numbered)
    (hfetch : SqlitePool.fetchAll executor.pool numbered.text (params.map Value.argument) =
      (.ok rows, after))
    (hread : rows.mapM SqliteRow.toRow = .ok out) :
    executor.fetchAll sql params = .ok { result := .ok out, executor := ⟨after⟩ } := by
  let fetched := SqlitePool.fetchAll executor.pool numbered.text (params.map Value.argument)
  have hreply : executor.fetchAll sql params =
      .ok { result := (fetched.1 >>= List.mapM SqliteRow.toRow).mapError .database
            executor := ⟨fetched.2⟩ } := by
    rw [fetchAll, hnumber]
    rfl
  rw [hreply, show fetched = (.ok rows, after) from hfetch]
  exact congrArg (fun result => Except.ok (Reply.mk (Except.mapError _ result) _ _)) hread

/-- A fetch of a selection of markers answers one row, with the parameters as they are stored. -/
theorem fetchAll_selection (h : SqlitePool.KeepsArguments π Received)
    {executor : SqliteExecutor π} {params : List Value} {sql : String}
    (hopen : executor.isClosed = false) (hne : params ≠ []) (hcolumns : params.length ≤ maxColumns)
    (hbytes : ∀ v ∈ params, v.argument.byteCount ≤ maxBytes)
    (hsql : SelectsMarkers params.length sql) :
    ∃ row after, executor.fetchAll sql params = .ok { result := .ok [row], executor := after } ∧
      after.isClosed = false ∧ row.values = params.map Value.stored := by
  have hlimits : maxColumns ≤ maxVariables ∧ maxColumns < Marker.indexLimit := by decide
  have hindex : params.length < Marker.indexLimit := Nat.lt_of_le_of_lt hcolumns hlimits.2
  obtain ⟨hhighest, hnumbered⟩ := hsql.numberedFrom_eq hindex
  obtain ⟨row, after, hfetch, hafter, hordinals, hreceived⟩ :=
    h.receives executor.pool (params.map Value.argument) (List.range' 1 params.length) hopen
      (by simpa using hne) (by simpa using hcolumns)
      (by simpa using Nat.le_trans hcolumns hlimits.1) (by simpa using hbytes)
      (by simp only [List.mem_range'_1, List.length_map]; omega)
  rw [← Clause.markers_eq] at hfetch
  have hplaces : ∀ place v, params[place]? = some v → Received row place v.argument := by
    intro place v hv
    have hplace : place < params.length := (List.getElem?_eq_some_iff.mp hv).1
    refine hreceived place (1 + place) v.argument ?_ ?_
    · rw [List.getElem?_range' (by simpa using hplace), Nat.one_mul]
    · rw [Nat.add_sub_cancel_left, List.getElem?_map, hv]
      rfl
  obtain ⟨out, hout, hvalues⟩ := toRow_received h (by simpa using hordinals) hplaces
  have hnumber : number sql =
      .ok ⟨(Clause.select (Clause.markers params.length)).text,
        decide (.bare ∈ rawMarkers sql)⟩ := by
    rw [number_eq, if_pos (hhighest ▸ hindex), hnumbered]
  exact ⟨out, ⟨after⟩, fetchAll_eq hnumber hfetch (by simp [hout]), hafter, hvalues⟩

/-- **A value survives binding and decoding up to its storage class.** This is so with every driver
that keeps its arguments. However its markers are spelled, a selection of markers answers one row
with the parameters as they are stored, and the values of this row are answered by themselves. A
stored value is stored as itself; it has the storage class of the value unless that is a NaN, and
the same integer, and a stored boolean is read as the boolean. -/
theorem values_survive_storage (h : SqlitePool.KeepsArguments π Received) :
    (∀ (executor : SqliteExecutor π) (params : List Value) (sql : String),
      executor.isClosed = false → params ≠ [] → params.length ≤ maxColumns →
        (∀ v ∈ params, v.argument.byteCount ≤ maxBytes) → SelectsMarkers params.length sql →
          ∃ row after,
            executor.fetchAll sql params = .ok { result := .ok [row], executor := after } ∧
              row.values = params.map Value.stored ∧
              ∃ again last,
                after.fetchAll sql row.values = .ok { result := .ok [again], executor := last } ∧
                  again.values = row.values) ∧
      (∀ v : Value, v.stored.stored = v.stored ∧
        ((∀ x, v = .real x → x.isNaN = false) → v.stored.typeName = v.typeName) ∧
        v.stored.asInt64? = v.asInt64?) ∧
      ∀ b, (decode (Value.bool b).stored.toJson : Except DecodeError Truth) = .ok ⟨b⟩ := by
  refine ⟨fun executor params sql hopen hne hcolumns hbytes hsql => ?_, fun v => ?_,
    Value.truth_stored⟩
  · obtain ⟨row, after, hfetch, hafter, hvalues⟩ :=
      fetchAll_selection h hopen hne hcolumns hbytes hsql
    have hlength : row.values.length = params.length := by rw [hvalues, List.length_map]
    have hne' : row.values ≠ [] := by simpa [hvalues] using hne
    have hbytes' : ∀ v ∈ row.values, v.argument.byteCount ≤ maxBytes := by
      rw [hvalues]
      intro v hv
      obtain ⟨param, hparam, rfl⟩ := List.mem_map.mp hv
      exact Nat.le_trans param.byteCount_stored_le (hbytes param hparam)
    obtain ⟨again, last, hfetch', -, hvalues'⟩ :=
      fetchAll_selection h hafter hne' (hlength ▸ hcolumns) hbytes' (hlength ▸ hsql)
    refine ⟨row, after, hfetch, hvalues, again, last, hfetch', ?_⟩
    rw [hvalues', hvalues, List.map_map]
    exact List.map_congr_left fun v _ => v.stored_stored
  · exact ⟨v.stored_stored, Value.typeName_stored, v.asInt64?_stored⟩

/-- Booleans, a NaN, an empty text and an empty blob on the stand-in, with bare markers. -/
theorem values_survive_storage_bare :
    SqlitePool.KeepsArguments Pool Pool.Received ∧
    ∃ row after,
      (ofPool { location := ⟨.memory, false⟩, journalMode := .wal : Pool }).fetchAll
          "SELECT ?, ?, ?, ?, ?"
          [.bool true, .bool false, .real Binary64.nan, .text "", .blob []] =
        .ok { result := .ok [row], executor := after } ∧
      row.values = [.integer 1, .integer 0, .null, .text "", .blob []] := by
  obtain ⟨row, after, hfetch, hvalues, -⟩ := (values_survive_storage Pool.keepsArguments).1
    (ofPool { location := ⟨.memory, false⟩, journalMode := .wal : Pool })
    [.bool true, .bool false, .real Binary64.nan, .text "", .blob []] "SELECT ?, ?, ?, ?, ?"
    rfl (by simp) (by decide) (by decide) (.inr (by decide +kernel))
  exact ⟨Pool.keepsArguments, row, after, hfetch, hvalues.trans (by decide +kernel)⟩

end SqliteExecutor

end SqlStatement
