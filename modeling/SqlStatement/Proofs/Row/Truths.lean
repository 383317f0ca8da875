import SqlStatement.Proofs.Row.Typed

/-!
# Reading booleans that are stored as integers

A truth is read from a boolean or else from an integer. On the plain form of a value this gives what
the integer view of the value shows, namely whether it differs from 0, and an error where there is
no such view (`Value.decode_truth`): no integer is taken for a real, and no real for an integer.

An account has two truths. It is read from the last cells of their names, and other columns do not
count.

* `Row.read_account_eq_ok_iff`: what an account is read as.
* `Row.decode_toJson_account_eq_error_iff`: the error, which is that of a cell that is no truth
  before it is that of a missing field.
* `truths_are_integer_views`: both for values and for rows.
-/

namespace SqlStatement

/-! ## One value -/

/-- An integer is tried where a boolean does not fit. -/
theorem Truth.decode_eq (json : Json) :
    (decode json : Except DecodeError Truth) =
      match (decode json : Except DecodeError Bool), (decode json : Except DecodeError Int64) with
      | .ok b, _ => .ok ⟨b⟩
      | .error _, .ok n => .ok ⟨n != 0⟩
      | .error _, .error _ => .error (.noAlternative "Flag") := rfl

namespace Value

/-- What the integer view of a value shows as a truth. -/
def truth? (v : Value) : Option Bool := v.asInt64?.map fun n => n != 0

theorem ofBool_ne_zero (b : Bool) : (ofBool b != 0) = b := by cases b <;> decide

theorem truth?_eq_some_iff {v : Value} {b : Bool} :
    v.truth? = some b ↔ v = .bool b ∨ ∃ n, v = .integer n ∧ b = (n != 0) := by
  cases v with
  | bool b' => simp [truth?, asInt64?, ofBool_ne_zero]
  | integer n => simp [truth?, asInt64?, eq_comm]
  | _ => simp [truth?, asInt64?]

theorem truth?_ne_none_iff {v : Value} :
    v.truth? ≠ none ↔ (∃ b, v = .bool b) ∨ ∃ n, v = .integer n := by
  cases v <;> simp [truth?, asInt64?]

/-- The error with which a value is refused that is no truth. -/
def refusedAsTruth (v : Value) : Option DecodeError :=
  match v.truth? with
  | some _ => none
  | none => some (.noAlternative "Flag")

/-- A value is read as the truth that its integer view shows. -/
theorem decode_truth (v : Value) :
    (decode v.toJson : Except DecodeError Truth) =
      match v.truth? with
      | some b => .ok ⟨b⟩
      | none => .error (.noAlternative "Flag") := by
  cases v with
  | bool b =>
    rw [truth?, asInt64?, Option.map_some, ofBool_ne_zero]
    rfl
  | integer n =>
    have hread : (decode (Value.integer n).toJson : Except DecodeError Int64) = .ok n :=
      Decode.decode_ofInt64 n
    rw [Truth.decode_eq, hread]
    rfl
  | real x =>
    cases h : x.isFinite with
    | true => rw [toJson_of_isFinite h]; rfl
    | false => rw [toJson_of_not_isFinite h]; rfl
  | null | text s | blob bytes => rfl

theorem decode_truth_eq_ok_iff {v : Value} {t : Truth} :
    decode v.toJson = .ok t ↔ v.truth? = some t.holds := by
  rw [decode_truth]
  cases v.truth? with
  | none => simp
  | some b => cases t; simp

theorem decode_truth_eq_error_iff {v : Value} {e : DecodeError} :
    (decode v.toJson : Except DecodeError Truth) = .error e ↔ v.refusedAsTruth = some e := by
  rw [decode_truth, refusedAsTruth]
  cases v.truth? <;> simp

end Value

/-! ## Accounts -/

namespace Account

/-- The error with which a cell of an account is refused; other columns are ignored. -/
def refusal (column : String) (v : Value) : Option DecodeError :=
  if column = "active" ∨ column = "verified" then v.refusedAsTruth else none

theorem nodup_names_fields : (fields.map Field.name).Nodup := by decide

theorem owns_active :
    Field.Owns fields "active"
      (fun (active : Truth) draft => { draft with active := some active.holds })
      Draft.active (fun t => some t.holds) where
  field := .head _
  put _ _ := rfl
  others other hother hname := by
    simp only [fields, List.mem_cons, List.not_mem_nil, or_false] at hother
    rcases hother with rfl | rfl
    · exact absurd rfl hname
    · exact Field.keeps_of fun _ _ => rfl

theorem owns_verified :
    Field.Owns fields "verified"
      (fun (verified : Truth) draft => { draft with verified := some verified.holds })
      Draft.verified (fun t => some t.holds) where
  field := .tail _ (.head _)
  put _ _ := rfl
  others other hother hname := by
    simp only [fields, List.mem_cons, List.not_mem_nil, or_false] at hother
    rcases hother with rfl | rfl
    · exact Field.keeps_of fun _ _ => rfl
    · exact absurd rfl hname

/-- The fields of an account refuse the cells that are no truths. -/
theorem field_refusal_eq (column : String) (v : Value) :
    Field.refusal fields (column, v.toJson) = refusal column v := by
  have htruth : ∀ {key : String} {put : Truth → Draft → Draft}, Field.of key put ∈ fields →
      Field.refusal fields (key, v.toJson) = v.refusedAsTruth := by
    intro key put hfield
    refine Option.ext fun e => ?_
    rw [Field.refusal_of_eq_some_iff nodup_names_fields hfield, Value.decode_truth_eq_error_iff]
  unfold refusal
  split_ifs with h
  · rcases h with rfl | rfl
    · exact htruth owns_active.field
    · exact htruth owns_verified.field
  · rw [not_or] at h
    exact Field.refusal_of_unknown (by simp [fields, Field.of, h.1, h.2])

theorem Draft.finish_eq_ok_iff {draft : Draft} {account : Account} :
    draft.finish = .ok account ↔
      draft.active = some account.active ∧ draft.verified = some account.verified := by
  obtain ⟨active, verified⟩ := draft
  obtain ⟨active', verified'⟩ := account
  cases active <;> cases verified <;>
    simp [Draft.finish, Field.required, bind, Except.bind, pure, Except.pure]

/-- The first field is looked for before the second. -/
theorem Draft.finish_eq_error_iff {draft : Draft} {e : DecodeError} :
    draft.finish = .error e ↔
      draft.active = none ∧ e = .missingField "active" ∨
        draft.active ≠ none ∧ draft.verified = none ∧ e = .missingField "verified" := by
  obtain ⟨active, verified⟩ := draft
  cases active <;> cases verified <;>
    simp [Draft.finish, Field.required, bind, Except.bind, pure, Except.pure, eq_comm]

end Account

namespace Row

variable {row : Row} {cause : DecodeError}

def truth? (row : Row) (column : String) : Option Bool := (row.last column).bind Value.truth?

/-- If no cell is refused, an account is made of the truths that the last cells show. -/
theorem decode_toJson_account_of_accepted
    (h : ∀ column value, row.last column = some value → Account.refusal column value = none) :
    (decode row.toJson : Except DecodeError Account) =
      (Account.Draft.mk (row.truth? "active") (row.truth? "verified")).finish := by
  have hread : ∃ draft, (row.lastCells.map fun cell => (cell.1, cell.2.toJson)).foldlM
        (Field.visit Account.fields) ⟨none, none⟩ = .ok draft ∧
      (decode row.toJson : Except DecodeError Account) = draft.finish :=
    exists_draft_of_accepted Account.field_refusal_eq h
  obtain ⟨draft, hfold, hdecode⟩ := hread
  have hactive : draft.active = row.truth? "active" :=
    get_eq_bind_last Account.owns_active Account.nodup_names_fields
      (fun _ _ => Value.decode_truth_eq_ok_iff.mp) rfl hfold
  have hverified : draft.verified = row.truth? "verified" :=
    get_eq_bind_last Account.owns_verified Account.nodup_names_fields
      (fun _ _ => Value.decode_truth_eq_ok_iff.mp) rfl hfold
  rw [hdecode, ← hactive, ← hverified]

theorem decode_toJson_account_of_refused (h : row.FirstRefusal Account.refusal cause) :
    (decode row.toJson : Except DecodeError Account) = .error cause :=
  record_of_refused Account.field_refusal_eq h

/-- An account is accepted if the cells that its fields are named for are truths. -/
theorem account_accepted_iff (row : Row) :
    (∀ column value, row.last column = some value → Account.refusal column value = none) ↔
      ∀ column ∈ ["active", "verified"], ∀ value, row.last column = some value →
        value.truth? ≠ none := by
  have hrefused : ∀ v : Value, v.refusedAsTruth = none ↔ v.truth? ≠ none := by
    intro v
    rw [Value.refusedAsTruth]
    cases v.truth? <;> simp
  constructor
  · intro h column hcolumn value hlast
    have haccepted := h column value hlast
    rw [Account.refusal, if_pos (by simpa using hcolumn)] at haccepted
    exact (hrefused value).mp haccepted
  · intro h column value hlast
    unfold Account.refusal
    split_ifs with hcolumn
    · exact (hrefused value).mpr (h column (by simpa using hcolumn) value hlast)
    · rfl

/-- Whichever cell of an account is refused, the error is the same. -/
theorem cause_of_account_refused (h : row.FirstRefusal Account.refusal cause) :
    cause = .noAlternative "Flag" := by
  obtain ⟨column, value, -, hcause, -⟩ := h
  unfold Account.refusal Value.refusedAsTruth at hcause
  split_ifs at hcause
  split at hcause
  · cases hcause
  · exact (Option.some.inj hcause).symm

theorem truth?_eq_some_iff {column : String} {b : Bool} :
    row.truth? column = some b ↔
      row.last column = some (.bool b) ∨
        ∃ n, row.last column = some (.integer n) ∧ b = (n != 0) := by
  rw [truth?]
  cases row.last column with
  | none => simp
  | some v => simp [Value.truth?_eq_some_iff]

theorem read_account_eq_ok_iff {account : Account} :
    row.read Account = .ok account ↔
      row.truth? "active" = some account.active ∧
        row.truth? "verified" = some account.verified := by
  rw [read_eq_ok_iff]
  obtain haccepted | ⟨cause, hrefused⟩ := accepted_or_firstRefusal row Account.refusal
  · rw [decode_toJson_account_of_accepted haccepted, Account.Draft.finish_eq_ok_iff]
  · rw [decode_toJson_account_of_refused hrefused]
    refine iff_of_false (by simp) ?_
    rintro ⟨hactive, hverified⟩
    -- Cells that show a truth are not refused.
    refine hrefused.not_accepted ((account_accepted_iff row).mpr ?_)
    intro column hcolumn value hlast hnone
    have htruth : row.truth? column = none := by rw [truth?, hlast, Option.bind_some, hnone]
    simp only [List.mem_cons, List.not_mem_nil, or_false] at hcolumn
    rcases hcolumn with rfl | rfl
    · rw [htruth] at hactive
      cases hactive
    · rw [htruth] at hverified
      cases hverified

theorem exists_read_account_iff :
    (∃ account, row.read Account = .ok account) ↔
      ∀ column ∈ ["active", "verified"], ∃ value, row.last column = some value ∧
        ((∃ b, value = .bool b) ∨ ∃ n, value = .integer n) := by
  have hshown : ∀ column, (∃ b, row.truth? column = some b) ↔
      ∃ value, row.last column = some value ∧
        ((∃ b, value = .bool b) ∨ ∃ n, value = .integer n) := by
    intro column
    rw [← Option.isSome_iff_exists, Option.isSome_iff_ne_none, truth?]
    cases row.last column with
    | none => simp
    | some v => simpa using Value.truth?_ne_none_iff
  simp only [read_account_eq_ok_iff, List.mem_cons, List.not_mem_nil, or_false, forall_eq_or_imp,
    forall_eq, ← hshown]
  constructor
  · rintro ⟨account, hactive, hverified⟩
    exact ⟨⟨_, hactive⟩, _, hverified⟩
  · rintro ⟨⟨active, hactive⟩, verified, hverified⟩
    exact ⟨⟨active, verified⟩, hactive, hverified⟩

/-- The error is that of a cell that is no truth, or else that of the first field that is
missing. -/
theorem decode_toJson_account_eq_error_iff :
    (decode row.toJson : Except DecodeError Account) = .error cause ↔
      (∃ column ∈ ["active", "verified"], ∃ value, row.last column = some value ∧
          value.truth? = none) ∧ cause = .noAlternative "Flag" ∨
        (∀ column ∈ ["active", "verified"], ∀ value, row.last column = some value →
          value.truth? ≠ none) ∧
          (row.last "active" = none ∧ cause = .missingField "active" ∨
            row.last "active" ≠ none ∧ row.last "verified" = none ∧
              cause = .missingField "verified") := by
  obtain haccepted | ⟨first, hfirst⟩ := accepted_or_firstRefusal row Account.refusal
  · have htruths := (account_accepted_iff row).mp haccepted
    have hmissing : ∀ column ∈ ["active", "verified"],
        (row.truth? column = none ↔ row.last column = none) := by
      intro column hcolumn
      exact Value.bind_eq_none_iff fun v hv =>
        Option.isSome_iff_ne_none.mpr (htruths column hcolumn v hv)
    have hnone : ¬∃ column ∈ ["active", "verified"], ∃ value, row.last column = some value ∧
        value.truth? = none := by
      rintro ⟨column, hcolumn, value, hlast, hvalue⟩
      exact htruths column hcolumn value hlast hvalue
    rw [decode_toJson_account_of_accepted haccepted, Account.Draft.finish_eq_error_iff]
    refine Iff.trans ?_ (or_iff_right fun h => hnone h.1).symm
    dsimp only
    rw [and_iff_right htruths, Ne, Ne, hmissing _ (by simp), hmissing _ (by simp)]
  · have hsome : ∃ column ∈ ["active", "verified"], ∃ value, row.last column = some value ∧
        value.truth? = none := by
      have hrefused := fun h => hfirst.not_accepted ((account_accepted_iff row).mpr h)
      by_contra hnone
      exact hrefused fun column hcolumn value hlast hvalue =>
        hnone ⟨column, hcolumn, value, hlast, hvalue⟩
    have hall : ¬∀ column ∈ ["active", "verified"], ∀ value, row.last column = some value →
        value.truth? ≠ none := by
      obtain ⟨column, hcolumn, value, hlast, hvalue⟩ := hsome
      intro h
      exact h column hcolumn value hlast hvalue
    rw [decode_toJson_account_of_refused hfirst, cause_of_account_refused hfirst,
      or_iff_left fun h => hall h.1, and_iff_right hsome, Except.error.injEq, eq_comm]

end Row

/-- **Truths are integer views.** A value is read as a truth exactly if it has an integer view, and
then the truth is whether this differs from 0. A row is read as an account exactly if the last cell
of either name is there and is a boolean or an integer, and these are its truths, whatever other
columns the row has. In every other case the row does not decode: the error is that of a cell that
is no truth or, if there is none, that of the first field that is missing. -/
theorem truths_are_integer_views :
    (∀ v : Value, (decode v.toJson : Except DecodeError Truth) =
      match v.asInt64? with
      | some n => .ok ⟨n != 0⟩
      | none => .error (.noAlternative "Flag")) ∧
    ∀ row : Row,
      ((∃ account, row.read Account = .ok account) ↔
        ∀ column ∈ ["active", "verified"], ∃ value, row.last column = some value ∧
          ((∃ b, value = .bool b) ∨ ∃ n, value = .integer n)) ∧
      (∀ account, row.read Account = .ok account ↔
        ∀ field ∈ [("active", account.active), ("verified", account.verified)],
          row.last field.1 = some (.bool field.2) ∨
            ∃ n, row.last field.1 = some (.integer n) ∧ field.2 = (n != 0)) ∧
      ∀ e, row.read Account = .error e ↔ ∃ cause, e = .serialization cause ∧
        ((∃ column ∈ ["active", "verified"], ∃ value, row.last column = some value ∧
            value.asInt64? = none) ∧ cause = .noAlternative "Flag" ∨
          (∀ column ∈ ["active", "verified"], ∀ value, row.last column = some value →
            value.asInt64? ≠ none) ∧
            (row.last "active" = none ∧ cause = .missingField "active" ∨
              row.last "active" ≠ none ∧ row.last "verified" = none ∧
                cause = .missingField "verified")) := by
  refine ⟨fun v => ?_, fun row => ⟨Row.exists_read_account_iff, fun account => ?_, fun e => ?_⟩⟩
  · rw [Value.decode_truth, Value.truth?]
    cases v.asInt64? <;> rfl
  · rw [Row.read_account_eq_ok_iff, Row.truth?_eq_some_iff, Row.truth?_eq_some_iff]
    simp only [List.mem_cons, List.not_mem_nil, or_false, forall_eq_or_imp, forall_eq]
  · have hview : ∀ v : Value, v.truth? = none ↔ v.asInt64? = none := by
      intro v
      rw [Value.truth?, Option.map_eq_none_iff]
    simp only [Row.read_eq_error_iff, Row.decode_toJson_account_eq_error_iff, hview, ne_eq,
      and_comm]

end SqlStatement
