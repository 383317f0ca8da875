import SqlStatement.Proofs.Decode.Record
import SqlStatement.Proofs.Row.Views
import SqlStatement.Proofs.Value.Reading
import SqlStatement.Row.Records

/-!
# Reading rows as maps and records

A row is read through its last cells. Each of them is read by itself (`Value.ReadsAs`), and the
order of the columns plays no part: of the cells that are refused, the one with the least name gives
the error (`Row.FirstRefusal`).

* `read_members_eq_ok_iff`, `read_members_eq_error_iff`: reading as a map.
* `read_user_eq_ok_iff`, `decode_toJson_user_eq_error_iff`: reading as a user, where a field that is
  missing is reported only if no cell is refused.
* `typed_reading`: which rows are read as a map of integers, as a map of optional texts and as a
  user, what is read, and the error of all others.
-/

namespace SqlStatement

/-- A list is related to the elements that a partial function gives for it exactly if the function
gives one for each. -/
theorem forall₂_eq_some_iff {α β : Type} {f : α → Option β} {as : List α} {bs : List β} :
    List.Forall₂ (fun a b => f a = some b) as bs ↔
      (∀ a ∈ as, (f a).isSome = true) ∧ bs = as.filterMap f := by
  induction as generalizing bs with
  | nil => simp
  | cons a as ih =>
    cases h : f a with
    | none => simp [List.forall₂_cons_left_iff, h]
    | some b => simp [List.forall₂_cons_left_iff, h, ih]

namespace Row

variable {row : Row} {refusal : String → Value → Option DecodeError} {cause : DecodeError}

/-- The members of the object of a row stand in order, so reading them keeps their order. -/
theorem ofList_lastCells (row : Row) :
    Members.ofList (row.lastCells.map fun cell => (cell.1, cell.2.toJson)) =
      row.lastCells.map fun cell => (cell.1, cell.2.toJson) :=
  Members.ofList_of_ascending (row.ascending_lastCells.map_values Value.toJson)

theorem lookup_reverse_lastCells (row : Row) (column : String) :
    row.lastCells.reverse.lookup column = row.last column := by
  rw [← Members.lookup_ofList, Members.ofList_of_ascending row.ascending_lastCells, lastCells,
    Members.lookup_ofList, last]

/-! ## The first refusal -/

/-- Of the last cells that are refused, the one whose name is least in the order of the bytes is
refused with this cause. -/
def FirstRefusal (row : Row) (refusal : String → Value → Option DecodeError)
    (cause : DecodeError) : Prop :=
  ∃ column value, row.last column = some value ∧ refusal column value = some cause ∧
    ∀ column' value', Text.bytes column' < Text.bytes column → row.last column' = some value' →
      refusal column' value' = none

/-- The first refusal is the one that is met first in the object of the row. -/
theorem firstRefusal_iff :
    row.FirstRefusal refusal cause ↔ ∃ before cell after, row.lastCells = before ++ cell :: after ∧
      (∀ earlier ∈ before, refusal earlier.1 earlier.2 = none) ∧
      refusal cell.1 cell.2 = some cause := by
  have hascending := row.ascending_lastCells
  constructor
  · rintro ⟨column, value, hlast, hrefused, hleast⟩
    obtain ⟨before, after, hsplit⟩ := List.append_of_mem (mem_lastCells_iff.mpr hlast)
    refine ⟨before, (column, value), after, hsplit, fun earlier hearlier => ?_, hrefused⟩
    rw [hsplit, Members.ascending_iff_bytes] at hascending
    refine hleast earlier.1 earlier.2
      ((List.pairwise_append.mp hascending).2.2 _ hearlier _ List.mem_cons_self) ?_
    rw [← mem_lastCells_iff, hsplit]
    exact List.mem_append_left _ hearlier
  · rintro ⟨before, ⟨column, value⟩, after, hsplit, hbefore, hrefused⟩
    refine ⟨column, value, by rw [← mem_lastCells_iff, hsplit]; simp, hrefused, ?_⟩
    intro column' value' hlt hlast
    -- A cell with a smaller name stands before this one, since the names ascend.
    rw [← mem_lastCells_iff, hsplit] at hlast
    rw [hsplit] at hascending
    have hafter := (List.pairwise_cons.mp (List.pairwise_append.mp hascending).2.1).1
    have hlt := Text.bytes_lt_iff.mp hlt
    rcases List.mem_append.mp hlast with hmem | hmem
    · exact hbefore _ hmem
    · rcases List.mem_cons.mp hmem with heq | hmem
      · cases heq
        exact absurd hlt (String.lt_irrefl _)
      · exact absurd (String.lt_trans hlt (hafter _ hmem)) (String.lt_irrefl _)

/-- If a last cell is refused, one of them is the first. -/
theorem exists_firstRefusal_iff :
    (∃ cause, row.FirstRefusal refusal cause) ↔
      ∃ column value, row.last column = some value ∧ refusal column value ≠ none := by
  constructor
  · rintro ⟨cause, column, value, hlast, hrefused, -⟩
    exact ⟨column, value, hlast, by simp [hrefused]⟩
  · rintro ⟨column, value, hlast, hrefused⟩
    have hfound : (row.lastCells.find? fun cell => (refusal cell.1 cell.2).isSome).isSome :=
      List.find?_isSome.mpr
        ⟨_, mem_lastCells_iff.mpr hlast, Option.isSome_iff_ne_none.mpr hrefused⟩
    obtain ⟨cell, hfind⟩ := Option.isSome_iff_exists.mp hfound
    obtain ⟨hcell, before, after, hsplit, hbefore⟩ := List.find?_eq_some_iff_append.mp hfind
    obtain ⟨cause, hcause⟩ := Option.isSome_iff_exists.mp hcell
    exact ⟨cause,
      firstRefusal_iff.mpr ⟨before, cell, after, hsplit, by simpa using hbefore, hcause⟩⟩

theorem FirstRefusal.not_accepted (h : row.FirstRefusal refusal cause) :
    ¬∀ column value, row.last column = some value → refusal column value = none := by
  obtain ⟨column, value, hlast, hcause, -⟩ := h
  intro haccepted
  rw [haccepted column value hlast] at hcause
  cases hcause

/-- Either no last cell is refused, or one of them is the first that is. -/
theorem accepted_or_firstRefusal (row : Row) (refusal : String → Value → Option DecodeError) :
    (∀ column value, row.last column = some value → refusal column value = none) ∨
      ∃ cause, row.FirstRefusal refusal cause := by
  rw [exists_firstRefusal_iff]
  by_cases h : ∃ column value, row.last column = some value ∧ refusal column value ≠ none
  · exact .inr h
  · exact .inl fun column value hlast =>
      by_contra fun hrefused => h ⟨column, value, hlast, hrefused⟩

/-! ## Maps -/

section Members

variable {α : Type} [Decode α] {view : Value → Option α} {wanted : Wanted}

/-- A row is read as a map by reading its last cells in the order of their names. -/
theorem decode_toJson_members (row : Row) :
    (decode row.toJson : Except DecodeError (Members α)) =
      row.lastCells.mapM fun cell => (decode cell.2.toJson).map fun a => (cell.1, a) := by
  rw [toJson_eq]
  change (Members.ofList _).mapM _ = _
  rw [ofList_lastCells, List.mapM_map]
  rfl

/-- The last cells as the view shows them, under their names. -/
def shown (row : Row) (view : Value → Option α) : Members α :=
  row.lastCells.filterMap fun cell => (view cell.2).map fun a => (cell.1, a)

omit [Decode α] in
theorem mem_shown_iff {column : String} {a : α} :
    (column, a) ∈ row.shown view ↔ ∃ value, row.last column = some value ∧ view value = some a := by
  simp only [shown, List.mem_filterMap, Prod.exists, mem_lastCells_iff, Option.map_eq_some_iff,
    Prod.mk.injEq]
  constructor
  · rintro ⟨_, value, hlast, _, hview, rfl, rfl⟩
    exact ⟨value, hlast, hview⟩
  · rintro ⟨value, hlast, hview⟩
    exact ⟨column, value, hlast, a, hview, rfl, rfl⟩

omit [Decode α] in
theorem ascending_shown : Members.Ascending (row.shown view) := by
  rw [Members.Ascending, shown, List.pairwise_filterMap]
  refine row.ascending_lastCells.imp fun {a b} hab m hm m' hm' => ?_
  obtain ⟨_, -, rfl⟩ := Option.map_eq_some_iff.mp hm
  obtain ⟨_, -, rfl⟩ := Option.map_eq_some_iff.mp hm'
  exact hab

theorem read_members_eq_ok_iff (h : Value.ReadsAs view wanted) {members : Members α} :
    row.read (Members α) = .ok members ↔
      (∀ column value, row.last column = some value → (view value).isSome = true) ∧
        members = row.shown view := by
  have hcell : ∀ (cell : String × Value) (m : String × α),
      ((decode cell.2.toJson).map fun a => (cell.1, a)) = .ok m ↔
        ((view cell.2).map fun a => (cell.1, a)) = some m := by
    intro cell m
    simp only [Except.map_eq_ok_iff, h.decode_eq_ok_iff, Option.map_eq_some_iff]
  simp only [read_eq_ok_iff, decode_toJson_members, Decode.mapM_eq_ok_iff, hcell,
    forall₂_eq_some_iff, Option.isSome_map, Prod.forall, mem_lastCells_iff, shown]

theorem read_members_eq_error_iff (h : Value.ReadsAs view wanted) {e : Error} :
    row.read (Members α) = .error e ↔
      ∃ cause, row.FirstRefusal (fun _ => Value.refusedAs view wanted) cause ∧
        e = .serialization cause := by
  have hok : ∀ cell : String × Value,
      (∃ m, ((decode cell.2.toJson).map fun a : α => (cell.1, a)) = .ok m) ↔
        cell.2.refusedAs view wanted = none := by
    intro cell
    simp only [Except.map_eq_ok_iff, h.decode_eq_ok_iff, Value.refusedAs_eq_none_iff,
      Option.isSome_iff_exists]
    constructor
    · rintro ⟨_, a, ha, -⟩
      exact ⟨a, ha⟩
    · rintro ⟨a, ha⟩
      exact ⟨_, a, ha, rfl⟩
  have herror : ∀ (cell : String × Value) (cause : DecodeError),
      ((decode cell.2.toJson).map fun a : α => (cell.1, a)) = .error cause ↔
        cell.2.refusedAs view wanted = some cause := by
    intro cell cause
    rw [← h.decode_eq_error_iff]
    cases (decode cell.2.toJson : Except DecodeError α) <;> simp [Except.map]
  simp only [read_eq_error_iff, decode_toJson_members, Decode.mapM_eq_error_iff, hok, herror,
    firstRefusal_iff]

example : (Row.mk [("b", .text "x"), ("a", .bool true)]).read (Members Int64) =
    .error (.serialization (.invalidType (.boolean true) .int64)) := by
  rfl

end Members

/-! ## Records -/

section Records

variable {δ α : Type} {name : String} {fields : List (Field δ)} {draft : δ}
  {finish : δ → Except DecodeError α}

/-- A record is read from the last cells, in the order of their names. -/
theorem record_toJson (row : Row) :
    Field.record name fields draft finish row.toJson =
      ((row.lastCells.map fun cell => (cell.1, cell.2.toJson)).foldlM
        (Field.visit fields) draft >>= finish) := by
  rw [toJson_eq]
  change Field.readMembers _ _ _ >>= _ = _
  rw [Field.readMembers, ofList_lastCells]

/-- If a cell is refused, the first refusal is the error. -/
theorem record_of_refused
    (hrefusal : ∀ column v, Field.refusal fields (column, v.toJson) = refusal column v)
    (h : row.FirstRefusal refusal cause) :
    Field.record name fields draft finish row.toJson = .error cause := by
  obtain ⟨before, cell, after, hsplit, hbefore, hrefused⟩ := firstRefusal_iff.mp h
  rw [record_toJson, hsplit, List.map_append, List.map_cons,
    Field.foldlM_visit_of_refused ?_ ((hrefusal _ _).trans hrefused)]
  · rfl
  · intro m hm
    obtain ⟨earlier, hearlier, rfl⟩ := List.mem_map.mp hm
    exact (hrefusal _ _).trans (hbefore earlier hearlier)

/-- If no cell is refused, the cells are put into the draft. -/
theorem exists_draft_of_accepted
    (hrefusal : ∀ column v, Field.refusal fields (column, v.toJson) = refusal column v)
    (h : ∀ column value, row.last column = some value → refusal column value = none) :
    ∃ draft', (row.lastCells.map fun cell => (cell.1, cell.2.toJson)).foldlM
        (Field.visit fields) draft = .ok draft' ∧
      Field.record name fields draft finish row.toJson = finish draft' := by
  have haccepted : ∀ m ∈ row.lastCells.map fun cell => (cell.1, cell.2.toJson),
      Field.refusal fields m = none := by
    intro m hm
    obtain ⟨cell, hcell, rfl⟩ := List.mem_map.mp hm
    exact (hrefusal _ _).trans (h _ _ (mem_lastCells_iff.mp hcell))
  obtain ⟨draft', hfold⟩ := Field.foldlM_visit_of_accepted haccepted draft
  refine ⟨draft', hfold, ?_⟩
  rw [record_toJson, hfold]
  rfl

/-- A field that reads values as a view shows them ends up with what the view shows of the last
cell of its name. -/
theorem get_eq_bind_last {β γ : Type} [Decode β] {key : String} {put : β → δ → δ}
    {get : δ → Option γ} {shown : β → Option γ} {view : Value → Option γ}
    (howns : Field.Owns fields key put get shown) (hnames : (fields.map Field.name).Nodup)
    (hview : ∀ v b, decode v.toJson = .ok b → view v = shown b) (hempty : get draft = none)
    {draft' : δ} (hfold : (row.lastCells.map fun cell => (cell.1, cell.2.toJson)).foldlM
      (Field.visit fields) draft = .ok draft') :
    get draft' = (row.last key).bind view := by
  have hget := howns.get_foldlM hnames hfold
  rw [← List.map_reverse, lookup_map_values, lookup_reverse_lastCells] at hget
  cases hlast : row.last key with
  | none =>
    rw [hlast] at hget
    exact hget.trans hempty
  | some v =>
    rw [hlast] at hget
    obtain ⟨b, hb, hshown⟩ := hget
    rw [hshown, Option.bind_some, hview v b hb]

end Records

end Row

/-! ## Users -/

/-- What a cell that may be absent gives as an optional text. -/
theorem Value.join_bind_optionalText?_eq_iff {cell : Option Value}
    (h : ∀ v, cell = some v → v.optionalText?.isSome = true) {text : Option String} :
    (cell.bind optionalText?).join = text ↔
      match text with
      | some s => cell = some (.text s)
      | none => ∀ v, cell = some v → v.WritesNull := by
  cases cell with
  | none => cases text <;> simp
  | some v =>
    obtain ⟨shown, hshown⟩ := Option.isSome_iff_exists.mp (h v rfl)
    rw [Option.bind_some, hshown, Option.join_some]
    cases text with
    | none => simp only [Option.some_inj, forall_eq', ← optionalText?_eq_some_none_iff, hshown]
    | some s => simp only [Option.some_inj, ← optionalText?_eq_some_some_iff, hshown]

theorem Value.bind_eq_none_iff {α : Type} {view : Value → Option α} {cell : Option Value}
    (h : ∀ v, cell = some v → (view v).isSome = true) : cell.bind view = none ↔ cell = none := by
  cases cell with
  | none => simp
  | some v => simpa using Option.isSome_iff_ne_none.mp (h v rfl)

namespace User

/-- The error with which a cell of a user is refused; other columns are ignored. -/
def refusal (column : String) (v : Value) : Option DecodeError :=
  if column = "id" then v.refusedAs Value.integer? .int64
  else if column = "name" then v.refusedAs Value.asText? .text
  else if column = "nickname" then v.refusedAs Value.optionalText? .text
  else none

/-- The fields of a user as the last cells of their names show them. -/
def Draft.ofCells (cells : Members Value) : Draft where
  id := (cells.reverse.lookup "id").bind Value.integer?
  name := (cells.reverse.lookup "name").bind Value.asText?
  nickname := ((cells.reverse.lookup "nickname").bind Value.optionalText?).join

theorem nodup_names_fields : (fields.map Field.name).Nodup := by decide

/-- The field of its name refuses a cell as the view of the field says. -/
theorem field_refusal {α : Type} [Decode α] {view : Value → Option α} {wanted : Wanted}
    (h : Value.ReadsAs view wanted) {key : String} {put : α → Draft → Draft}
    (hfield : Field.of key put ∈ fields) (v : Value) :
    Field.refusal fields (key, v.toJson) = v.refusedAs view wanted := by
  refine Option.ext fun e => ?_
  rw [Field.refusal_of_eq_some_iff nodup_names_fields hfield, h.decode_eq_error_iff]

theorem field_refusal_eq (column : String) (v : Value) :
    Field.refusal fields (column, v.toJson) = refusal column v := by
  unfold refusal
  split_ifs with hid hname hnickname
  · exact hid ▸ field_refusal Value.readsAs_integer? (.head _) v
  · exact hname ▸ field_refusal Value.readsAs_asText? (.tail _ (.head _)) v
  · exact hnickname ▸ field_refusal Value.readsAs_optionalText? (.tail _ (.tail _ (.head _))) v
  · exact Field.refusal_of_unknown (by simp [fields, Field.of, hid, hname, hnickname])

theorem owns_id :
    Field.Owns fields "id" (fun (id : Int64) draft => { draft with id := some id }) Draft.id
      some where
  field := .head _
  put _ _ := rfl
  others other hother hname := by
    simp only [fields, List.mem_cons, List.not_mem_nil, or_false] at hother
    rcases hother with rfl | rfl | rfl
    · exact absurd rfl hname
    · exact Field.keeps_of fun _ _ => rfl
    · exact Field.keeps_of fun _ _ => rfl

theorem owns_name :
    Field.Owns fields "name" (fun (name : String) draft => { draft with name := some name })
      Draft.name some where
  field := .tail _ (.head _)
  put _ _ := rfl
  others other hother hname := by
    simp only [fields, List.mem_cons, List.not_mem_nil, or_false] at hother
    rcases hother with rfl | rfl | rfl
    · exact Field.keeps_of fun _ _ => rfl
    · exact absurd rfl hname
    · exact Field.keeps_of fun _ _ => rfl

theorem owns_nickname :
    Field.Owns fields "nickname" (fun (nickname : Option String) draft => { draft with nickname })
      Draft.nickname (fun nickname => nickname) where
  field := .tail _ (.tail _ (.head _))
  put _ _ := rfl
  others other hother hname := by
    simp only [fields, List.mem_cons, List.not_mem_nil, or_false] at hother
    rcases hother with rfl | rfl | rfl
    · exact Field.keeps_of fun _ _ => rfl
    · exact Field.keeps_of fun _ _ => rfl
    · exact absurd rfl hname

theorem Draft.finish_eq_ok_iff {draft : Draft} {user : User} :
    draft.finish = .ok user ↔
      draft.id = some user.id ∧ draft.name = some user.name ∧ draft.nickname = user.nickname := by
  obtain ⟨id, name, nickname⟩ := draft
  obtain ⟨id', name', nickname'⟩ := user
  cases id <;> cases name <;>
    simp [Draft.finish, Field.required, bind, Except.bind, pure, Except.pure]

/-- The identifier is looked for before the name. -/
theorem Draft.finish_eq_error_iff {draft : Draft} {e : DecodeError} :
    draft.finish = .error e ↔
      draft.id = none ∧ e = .missingField "id" ∨
        draft.id ≠ none ∧ draft.name = none ∧ e = .missingField "name" := by
  obtain ⟨id, name, nickname⟩ := draft
  cases id <;> cases name <;>
    simp [Draft.finish, Field.required, bind, Except.bind, pure, Except.pure, eq_comm]

end User

namespace Row

theorem decode_toJson_user_of_accepted {row : Row}
    (h : ∀ column value, row.last column = some value → User.refusal column value = none) :
    (decode row.toJson : Except DecodeError User) = (User.Draft.ofCells row.lastCells).finish := by
  have hread : ∃ draft, (row.lastCells.map fun cell => (cell.1, cell.2.toJson)).foldlM
        (Field.visit User.fields) ⟨none, none, none⟩ = .ok draft ∧
      (decode row.toJson : Except DecodeError User) = draft.finish :=
    exists_draft_of_accepted User.field_refusal_eq h
  obtain ⟨draft, hfold, hdecode⟩ := hread
  have hid : draft.id = (row.last "id").bind Value.integer? :=
    get_eq_bind_last User.owns_id User.nodup_names_fields
      (fun _ _ => Value.readsAs_integer?.decode_eq_ok_iff.mp) rfl hfold
  have hname : draft.name = (row.last "name").bind Value.asText? :=
    get_eq_bind_last User.owns_name User.nodup_names_fields
      (fun _ _ => Value.readsAs_asText?.decode_eq_ok_iff.mp) rfl hfold
  have hnickname : draft.nickname = ((row.last "nickname").bind Value.optionalText?).join := by
    rw [get_eq_bind_last User.owns_nickname User.nodup_names_fields (fun _ _ hread =>
      congrArg Option.join (Value.readsAs_optionalText?.decode_eq_ok_iff.mp hread)) rfl hfold]
    cases row.last "nickname" <;> rfl
  simp only [hdecode, User.Draft.ofCells, lookup_reverse_lastCells, ← hid, ← hname, ← hnickname]

theorem decode_toJson_user_of_refused {row : Row} {cause : DecodeError}
    (h : row.FirstRefusal User.refusal cause) :
    (decode row.toJson : Except DecodeError User) = .error cause :=
  record_of_refused User.field_refusal_eq h

/-- The cells of a user are not refused if those that the fields are named for are not. -/
theorem user_accepted_iff (row : Row) :
    (∀ column value, row.last column = some value → User.refusal column value = none) ↔
      (∀ value, row.last "id" = some value → ∃ n, value = .integer n) ∧
      (∀ value, row.last "name" = some value → ∃ s, value = .text s) ∧
      ∀ value, row.last "nickname" = some value → (∃ s, value = .text s) ∨ value.WritesNull := by
  simp only [← Value.isSome_optionalText?_iff]
  simp only [← Value.isSome_integer?_iff, ← Value.isSome_asText?_iff]
  constructor
  · intro h
    exact ⟨fun value hlast => Value.refusedAs_eq_none_iff.mp (h _ value hlast),
      fun value hlast => Value.refusedAs_eq_none_iff.mp (h _ value hlast),
      fun value hlast => Value.refusedAs_eq_none_iff.mp (h _ value hlast)⟩
  · rintro ⟨hid, hname, hnickname⟩ column value hlast
    unfold User.refusal
    split_ifs with hc hc hc
    · exact Value.refusedAs_eq_none_iff.mpr (hid value (hc ▸ hlast))
    · exact Value.refusedAs_eq_none_iff.mpr (hname value (hc ▸ hlast))
    · exact Value.refusedAs_eq_none_iff.mpr (hnickname value (hc ▸ hlast))
    · rfl

theorem read_user_eq_ok_iff {row : Row} {user : User} :
    row.read User = .ok user ↔
      row.last "id" = some (.integer user.id) ∧ row.last "name" = some (.text user.name) ∧
        match user.nickname with
        | some nickname => row.last "nickname" = some (.text nickname)
        | none => ∀ value, row.last "nickname" = some value → value.WritesNull := by
  rw [read_eq_ok_iff]
  obtain haccepted | ⟨cause, hrefused⟩ := accepted_or_firstRefusal row User.refusal
  · obtain ⟨-, -, hnickname⟩ := (user_accepted_iff row).mp haccepted
    rw [decode_toJson_user_of_accepted haccepted, User.Draft.finish_eq_ok_iff]
    simp only [User.Draft.ofCells, lookup_reverse_lastCells, Option.bind_eq_some_iff,
      Value.integer?_eq_some_iff, Value.asText?_eq_some_iff, exists_eq_right]
    rw [Value.join_bind_optionalText?_eq_iff fun v hv =>
      Value.isSome_optionalText?_iff.mpr (hnickname v hv)]
  · rw [decode_toJson_user_of_refused hrefused]
    refine iff_of_false (by simp) ?_
    rintro ⟨hid, hname, hnickname⟩
    refine hrefused.not_accepted
      ((user_accepted_iff row).mpr ⟨fun v hv => ?_, fun v hv => ?_, fun v hv => ?_⟩)
    · exact ⟨user.id, Option.some.inj (hv.symm.trans hid)⟩
    · exact ⟨user.name, Option.some.inj (hv.symm.trans hname)⟩
    · cases htext : user.nickname with
      | none => rw [htext] at hnickname; exact .inr (hnickname v hv)
      | some s => rw [htext] at hnickname; exact .inl ⟨s, Option.some.inj (hv.symm.trans hnickname)⟩

theorem exists_read_user_iff {row : Row} :
    (∃ user, row.read User = .ok user) ↔
      (∃ n, row.last "id" = some (.integer n)) ∧ (∃ s, row.last "name" = some (.text s)) ∧
        ∀ value, row.last "nickname" = some value → (∃ s, value = .text s) ∨ value.WritesNull := by
  simp only [read_user_eq_ok_iff]
  constructor
  · rintro ⟨⟨id, name, nickname⟩, hid, hname, hnickname⟩
    refine ⟨⟨id, hid⟩, ⟨name, hname⟩, fun v hv => ?_⟩
    cases nickname with
    | none => exact .inr (hnickname v hv)
    | some s => exact .inl ⟨s, Option.some.inj (hv.symm.trans hnickname)⟩
  · rintro ⟨⟨id, hid⟩, ⟨name, hname⟩, hnickname⟩
    have hshown : ∀ v, row.last "nickname" = some v → v.optionalText?.isSome = true :=
      fun v hv => Value.isSome_optionalText?_iff.mpr (hnickname v hv)
    exact ⟨⟨id, name, ((row.last "nickname").bind Value.optionalText?).join⟩, hid, hname,
      (Value.join_bind_optionalText?_eq_iff hshown).mp rfl⟩

/-- The error is the first refusal, or, if there is none, the first field that is missing. -/
theorem decode_toJson_user_eq_error_iff {row : Row} {cause : DecodeError} :
    (decode row.toJson : Except DecodeError User) = .error cause ↔
      row.FirstRefusal User.refusal cause ∨
        (∀ column value, row.last column = some value → User.refusal column value = none) ∧
          (row.last "id" = none ∧ cause = .missingField "id" ∨
            row.last "id" ≠ none ∧ row.last "name" = none ∧ cause = .missingField "name") := by
  obtain haccepted | ⟨first, hfirst⟩ := accepted_or_firstRefusal row User.refusal
  · obtain ⟨hid, hname, -⟩ := (user_accepted_iff row).mp haccepted
    have hrefusal : ¬row.FirstRefusal User.refusal cause := fun h => h.not_accepted haccepted
    have hid' := Value.bind_eq_none_iff fun v hv => Value.isSome_integer?_iff.mpr (hid v hv)
    have hname' := Value.bind_eq_none_iff fun v hv => Value.isSome_asText?_iff.mpr (hname v hv)
    rw [decode_toJson_user_of_accepted haccepted, User.Draft.finish_eq_error_iff,
      or_iff_right hrefusal, and_iff_right haccepted]
    simp only [User.Draft.ofCells, lookup_reverse_lastCells, ne_eq, hid', hname']
  · rw [or_iff_left fun h => hfirst.not_accepted h.1]
    constructor
    · intro h
      rw [decode_toJson_user_of_refused hfirst, Except.error.injEq] at h
      exact h ▸ hfirst
    · exact decode_toJson_user_of_refused

/-- **Typed reading.** A row is read by its last cells, however often and in whatever order its
columns stand.
* As a map of integers it is read exactly if every last cell is an integer, and then each name is
  in the map once, in the order of the bytes, with its integer.
* As a map of optional texts it is read exactly if every last cell is a text, null or a real that is
  not finite; the latter two give nothing.
* As a user it is read exactly if an identifier and a name are present, the identifier being an
  integer and the name a text, and a nickname, if present, is a text, null or a real that is not
  finite; other columns do not count.
* In every other case the error is the refusal of the cell whose name is least in the order of the
  bytes, or, for a user none of whose cells is refused, that of the first missing field. -/
theorem typed_reading (row : Row) :
    (((∃ members, row.read (Members Int64) = .ok members) ↔
        ∀ column value, row.last column = some value → ∃ n, value = .integer n) ∧
      (∀ members, row.read (Members Int64) = .ok members →
        (members.Pairwise fun a b => Text.bytes a.1 < Text.bytes b.1) ∧
        ∀ column n, (column, n) ∈ members ↔ row.last column = some (.integer n)) ∧
      ∀ e, row.read (Members Int64) = .error e ↔ ∃ cause,
        row.FirstRefusal (fun _ => Value.refusedAs Value.integer? .int64) cause ∧
          e = .serialization cause) ∧
    (((∃ members, row.read (Members (Option String)) = .ok members) ↔
        ∀ column value, row.last column = some value → (∃ s, value = .text s) ∨ value.WritesNull) ∧
      (∀ members, row.read (Members (Option String)) = .ok members →
        (members.Pairwise fun a b => Text.bytes a.1 < Text.bytes b.1) ∧
        (∀ column s, (column, some s) ∈ members ↔ row.last column = some (.text s)) ∧
        ∀ column, (column, none) ∈ members ↔
          ∃ value, row.last column = some value ∧ value.WritesNull) ∧
      ∀ e, row.read (Members (Option String)) = .error e ↔ ∃ cause,
        row.FirstRefusal (fun _ => Value.refusedAs Value.optionalText? .text) cause ∧
          e = .serialization cause) ∧
    ((∃ user, row.read User = .ok user) ↔
      (∃ n, row.last "id" = some (.integer n)) ∧ (∃ s, row.last "name" = some (.text s)) ∧
        ∀ value, row.last "nickname" = some value → (∃ s, value = .text s) ∨ value.WritesNull) ∧
    (∀ user, row.read User = .ok user ↔
      row.last "id" = some (.integer user.id) ∧ row.last "name" = some (.text user.name) ∧
        match user.nickname with
        | some nickname => row.last "nickname" = some (.text nickname)
        | none => ∀ value, row.last "nickname" = some value → value.WritesNull) ∧
    ∀ e, row.read User = .error e ↔ ∃ cause,
      (row.FirstRefusal User.refusal cause ∨
        (∀ column value, row.last column = some value → User.refusal column value = none) ∧
          (row.last "id" = none ∧ cause = .missingField "id" ∨
            row.last "id" ≠ none ∧ row.last "name" = none ∧ cause = .missingField "name")) ∧
        e = .serialization cause := by
  refine ⟨⟨?_, fun members h => ?_, fun e => read_members_eq_error_iff Value.readsAs_integer?⟩,
    ⟨?_, fun members h => ?_, fun e => read_members_eq_error_iff Value.readsAs_optionalText?⟩,
    exists_read_user_iff, fun user => read_user_eq_ok_iff, fun e => ?_⟩
  · simp only [read_members_eq_ok_iff Value.readsAs_integer?, exists_and_left, exists_eq, and_true,
      Value.isSome_integer?_iff]
  · obtain ⟨-, rfl⟩ := (read_members_eq_ok_iff Value.readsAs_integer?).mp h
    refine ⟨Members.ascending_iff_bytes.mp ascending_shown, fun column n => ?_⟩
    simp only [mem_shown_iff, Value.integer?_eq_some_iff, exists_eq_right]
  · simp only [read_members_eq_ok_iff Value.readsAs_optionalText?, exists_and_left, exists_eq,
      and_true, Value.isSome_optionalText?_iff]
  · obtain ⟨-, rfl⟩ := (read_members_eq_ok_iff Value.readsAs_optionalText?).mp h
    refine ⟨Members.ascending_iff_bytes.mp ascending_shown, fun column s => ?_, fun column => ?_⟩
    · simp only [mem_shown_iff, Value.optionalText?_eq_some_some_iff, exists_eq_right]
    · simp only [mem_shown_iff, Value.optionalText?_eq_some_none_iff]
  · rw [read_eq_error_iff]
    simp only [decode_toJson_user_eq_error_iff]

end Row

end SqlStatement
