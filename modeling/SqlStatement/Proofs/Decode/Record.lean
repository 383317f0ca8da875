import SqlStatement.Decode.Record
import SqlStatement.Proofs.Decode.Basic
import SqlStatement.Proofs.Json.Members

/-!
# How records are read

The members of an object are visited in ascending order of their keys. What becomes of one member
does not depend on the record that was read so far: it is refused (`Field.refusal`) or put into the
record.

* `Field.readMembers_of_refused`: of the members that are refused, the one with the least key gives
  the error.
* `Field.Owns.get_foldlM`: of the members under one key, the last one gives what its field holds.
* `Field.readElements_eq_foldlM`: an array is read like members under the declared names.
-/

namespace SqlStatement

namespace Field

variable {δ : Type}

/-- The error with which the field of its name refuses a member. -/
def refusal (fields : List (Field δ)) (member : String × Json) : Option DecodeError :=
  match fields.find? fun field => field.name == member.1 with
  | some field =>
    match field.read member.2 with
    | .ok _ => none
    | .error e => some e
  | none => none

/-- A field that holds any value of its type refuses what cannot be read as one. -/
theorem refusal_of_eq_none_iff {fields : List (Field δ)} (hnames : (fields.map name).Nodup)
    {α : Type} [Decode α] {key : String} {put : α → δ → δ} (hfield : Field.of key put ∈ fields)
    {json : Json} :
    refusal fields (key, json) = none ↔ ∃ a, (decode json : Except DecodeError α) = .ok a := by
  have hfind : (fields.find? fun field => field.name == key) = some (Field.of key put) :=
    find?_eq_some_of_mem hnames hfield
  rw [refusal, hfind]
  cases h : (decode json : Except DecodeError α) <;> simp [Field.of, h, Except.map]

/-- It refuses with the error of reading it. -/
theorem refusal_of_eq_some_iff {fields : List (Field δ)} (hnames : (fields.map name).Nodup)
    {α : Type} [Decode α] {key : String} {put : α → δ → δ} (hfield : Field.of key put ∈ fields)
    {json : Json} {e : DecodeError} :
    refusal fields (key, json) = some e ↔ (decode json : Except DecodeError α) = .error e := by
  have hfind : (fields.find? fun field => field.name == key) = some (Field.of key put) :=
    find?_eq_some_of_mem hnames hfield
  rw [refusal, hfind]
  cases h : (decode json : Except DecodeError α) <;> simp [Field.of, h, Except.map]

/-- A member that no field is named for is not refused. -/
theorem refusal_of_unknown {fields : List (Field δ)} {member : String × Json}
    (h : member.1 ∉ fields.map name) : refusal fields member = none := by
  have hfind : (fields.find? fun field => field.name == member.1) = none := by
    simpa using h
  rw [refusal, hfind]

/-! ## Objects -/

theorem visit_of_mem {fields : List (Field δ)} (hnames : (fields.map name).Nodup)
    {field : Field δ} (hfield : field ∈ fields) (record : δ) (json : Json) :
    visit fields record (field.name, json) =
      (field.read json).map fun update => update record := by
  rw [visit, find?_eq_some_of_mem hnames hfield]

/-- A field that reads its member puts it into the record. -/
theorem visit_of {fields : List (Field δ)} (hnames : (fields.map name).Nodup) {α : Type} [Decode α]
    {key : String} {put : α → δ → δ} (hfield : Field.of key put ∈ fields) {json : Json} {a : α}
    (hread : decode json = .ok a) (record : δ) :
    visit fields record (key, json) = .ok (put a record) := by
  refine (visit_of_mem hnames hfield record json).trans ?_
  simp [Field.of, hread, Except.map]

/-- A member that no field is named for changes nothing. -/
theorem visit_of_unknown {fields : List (Field δ)} {member : String × Json}
    (h : member.1 ∉ fields.map name) (record : δ) :
    visit fields record member = .ok record := by
  have hfind : (fields.find? fun field => field.name == member.1) = none := by
    simpa using h
  rw [visit, hfind]

/-- A refusal comes from the field that is named like the member. -/
theorem refusal_eq_some_iff {fields : List (Field δ)} {member : String × Json} {e : DecodeError} :
    refusal fields member = some e ↔ ∃ field,
      (fields.find? fun field => field.name == member.1) = some field ∧
        field.read member.2 = .error e := by
  rw [refusal]
  cases fields.find? fun field => field.name == member.1 with
  | none => simp
  | some field => cases h : field.read member.2 <;> simp [h]

theorem visit_of_refusal_eq_some {fields : List (Field δ)} {member : String × Json}
    {e : DecodeError} (h : refusal fields member = some e) (record : δ) :
    visit fields record member = .error e := by
  obtain ⟨field, hfind, hread⟩ := refusal_eq_some_iff.mp h
  rw [visit, hfind]
  simp [hread, Except.map]

theorem visit_of_refusal_eq_none {fields : List (Field δ)} {member : String × Json}
    (h : refusal fields member = none) (record : δ) :
    ∃ record', visit fields record member = .ok record' := by
  rw [visit]
  cases hfind : fields.find? fun field => field.name == member.1 with
  | none => exact ⟨record, rfl⟩
  | some field =>
    cases hread : field.read member.2 with
    | ok update => exact ⟨update record, by simp [hread, Except.map]⟩
    | error e =>
      rw [refusal_eq_some_iff.mpr ⟨field, hfind, hread⟩] at h
      cases h

/-- Members that are not refused can be read. -/
theorem foldlM_visit_of_accepted {fields : List (Field δ)} {members : Members Json}
    (h : ∀ m ∈ members, refusal fields m = none) (record : δ) :
    ∃ record', members.foldlM (visit fields) record = .ok record' := by
  induction members generalizing record with
  | nil => exact ⟨record, rfl⟩
  | cons m rest ih =>
    simp only [List.mem_cons, forall_eq_or_imp] at h
    obtain ⟨record', hvisit⟩ := visit_of_refusal_eq_none h.1 record
    rw [List.foldlM_cons, hvisit]
    exact ih h.2 record'

/-- The first member that is refused gives the error. -/
theorem foldlM_visit_of_refused {fields : List (Field δ)} {front back : Members Json}
    {member : String × Json} {e : DecodeError} (hfront : ∀ m ∈ front, refusal fields m = none)
    (hmember : refusal fields member = some e) (record : δ) :
    (front ++ member :: back).foldlM (visit fields) record = .error e := by
  obtain ⟨record', hread⟩ := foldlM_visit_of_accepted hfront record
  rw [List.foldlM_append, hread]
  change (member :: back).foldlM (visit fields) record' = .error e
  rw [List.foldlM_cons, visit_of_refusal_eq_some hmember]
  rfl

/-- Of the members that are refused, the one with the least key gives the error. -/
theorem readMembers_of_refused {fields : List (Field δ)} {members : Members Json}
    (h : ∃ m ∈ Members.ofList members, refusal fields m ≠ none) (record : δ) :
    ∃ m e, m ∈ Members.ofList members ∧ refusal fields m = some e ∧
      (∀ other ∈ Members.ofList members, other.1 < m.1 → refusal fields other = none) ∧
      readMembers fields record members = .error e := by
  obtain ⟨m₀, hm₀, hrefused₀⟩ := h
  have hfound : ((Members.ofList members).find? fun m => (refusal fields m).isSome).isSome :=
    List.find?_isSome.mpr ⟨m₀, hm₀, Option.isSome_iff_ne_none.mpr hrefused₀⟩
  obtain ⟨m, hfind⟩ := Option.isSome_iff_exists.mp hfound
  obtain ⟨hrefused, front, back, hsplit, hfront⟩ := List.find?_eq_some_iff_append.mp hfind
  obtain ⟨e, he⟩ := Option.isSome_iff_exists.mp hrefused
  have hfront : ∀ n ∈ front, refusal fields n = none := by simpa using hfront
  refine ⟨m, e, by simp [hsplit], he, ?_, ?_⟩
  · intro other hother hlt
    -- A member with a smaller key stands before `m`, since the keys ascend.
    have hascending := Members.ascending_ofList members
    rw [hsplit] at hother hascending
    have hback := (List.pairwise_cons.mp (List.pairwise_append.mp hascending).2.1).1
    rcases List.mem_append.mp hother with hother | hother
    · exact hfront other hother
    · rcases List.mem_cons.mp hother with rfl | hother
      · exact absurd hlt (String.lt_irrefl _)
      · exact absurd (String.lt_trans hlt (hback other hother)) (String.lt_irrefl _)
  · rw [readMembers, hsplit]
    exact foldlM_visit_of_refused hfront he record

/-- If no member is refused, the object is read. -/
theorem readMembers_of_accepted {fields : List (Field δ)} {members : Members Json}
    (h : ∀ m ∈ Members.ofList members, refusal fields m = none) (record : δ) :
    ∃ record', readMembers fields record members = .ok record' :=
  foldlM_visit_of_accepted h record

/-! ## One field -/

/-- The field changes nothing of what `get` shows of a record. -/
def Keeps {γ : Type} (get : δ → γ) (field : Field δ) : Prop :=
  ∀ json update, field.read json = .ok update → ∀ record, get (update record) = get record

theorem keeps_of {α γ : Type} [Decode α] {key : String} {put : α → δ → δ} {get : δ → γ}
    (h : ∀ a record, get (put a record) = get record) : (Field.of key put).Keeps get := by
  intro json update hupdate record
  obtain ⟨a, -, rfl⟩ := Except.map_eq_ok_iff.mp hupdate
  exact h a record

/-- What the field under this key reads is what `get` shows of a record, and no other field has a
part in it. -/
structure Owns {α γ : Type} [Decode α] (fields : List (Field δ)) (key : String) (put : α → δ → δ)
    (get : δ → γ) (shown : α → γ) : Prop where
  field : Field.of key put ∈ fields
  put : ∀ a record, get (put a record) = shown a
  others : ∀ other ∈ fields, other.name ≠ key → other.Keeps get

section Owns

variable {α γ : Type} [Decode α] {fields : List (Field δ)} {key : String} {put : α → δ → δ}
  {get : δ → γ} {shown : α → γ}

theorem Owns.visit_same (h : Owns fields key put get shown) (hnames : (fields.map name).Nodup)
    {json : Json} {record record' : δ}
    (hvisit : visit fields record (key, json) = .ok record') :
    ∃ a, decode json = .ok a ∧ get record' = shown a := by
  have hread := (visit_of_mem hnames h.field record json).symm.trans hvisit
  obtain ⟨update, hupdate, rfl⟩ := Except.map_eq_ok_iff.mp hread
  obtain ⟨a, ha, rfl⟩ := Except.map_eq_ok_iff.mp hupdate
  exact ⟨a, ha, h.put a record⟩

theorem Owns.visit_other (h : Owns fields key put get shown) {member : String × Json}
    (hmember : member.1 ≠ key) {record record' : δ}
    (hvisit : visit fields record member = .ok record') : get record' = get record := by
  rw [visit] at hvisit
  cases hfind : fields.find? fun field => field.name == member.1 with
  | none =>
    rw [hfind] at hvisit
    cases hvisit
    rfl
  | some other =>
    rw [hfind] at hvisit
    obtain ⟨update, hupdate, rfl⟩ := Except.map_eq_ok_iff.mp hvisit
    have hname : other.name = member.1 := by simpa using List.find?_some hfind
    exact h.others other (List.mem_of_find?_eq_some hfind) (hname ▸ hmember) _ update hupdate record

/-- After members were read, the field shows what the last member under its key gives, or what it
showed before if there is none. -/
theorem Owns.get_foldlM (h : Owns fields key put get shown) (hnames : (fields.map name).Nodup)
    {members : Members Json} {record record' : δ}
    (hfold : members.foldlM (visit fields) record = .ok record') :
    match members.reverse.lookup key with
    | some json => ∃ a, decode json = .ok a ∧ get record' = shown a
    | none => get record' = get record := by
  induction members using List.reverseRecOn generalizing record' with
  | nil => cases hfold; rfl
  | append_singleton members member ih =>
    rw [List.foldlM_append] at hfold
    obtain ⟨between, hbetween, hlast⟩ := Except.bind_eq_ok_iff.mp hfold
    rw [List.foldlM_cons] at hlast
    obtain ⟨after, hvisit, hafter⟩ := Except.bind_eq_ok_iff.mp hlast
    cases hafter
    obtain ⟨name, json⟩ := member
    rw [List.reverse_append, List.reverse_singleton, List.singleton_append, List.lookup_cons]
    by_cases hname : name = key
    · subst hname
      rw [beq_self_eq_true]
      exact h.visit_same hnames hvisit
    · -- Another member leaves what the members before it gave.
      have hkey : (key == name) = false := beq_false_of_ne (Ne.symm hname)
      rw [hkey, h.visit_other hname hvisit]
      exact ih hbetween

end Owns

/-! ## Arrays -/

/-- Elements are read like members under the names of the fields `rest` that are left. -/
theorem readElements_eq_foldlM {fields rest : List (Field δ)} (hnames : (fields.map name).Nodup)
    (hrest : ∀ field ∈ rest, field ∈ fields) {members : Members Json}
    (hkeys : members.map Prod.fst <+: rest.map name) (length : Nat) (record : δ) :
    readElements length rest record (members.map Prod.snd) =
      members.foldlM (visit fields) record := by
  induction members generalizing rest record with
  | nil => cases rest <;> rfl
  | cons m members ih =>
    cases rest with
    | nil => simp at hkeys
    | cons field rest =>
      obtain ⟨key, json⟩ := m
      simp only [List.map_cons, List.cons_prefix_cons] at hkeys
      simp only [List.mem_cons, forall_eq_or_imp] at hrest
      obtain ⟨rfl, hkeys⟩ := hkeys
      rw [List.map_cons, List.foldlM_cons, visit_of_mem hnames hrest.1, readElements]
      cases field.read json with
      | ok update => exact ih hrest.2 hkeys (update record)
      | error e => rfl

/-- An array with more elements than there are fields is refused. -/
theorem readElements_of_length_lt (length : Nat) (fields : List (Field δ)) (record : δ)
    {items : List Json} (h : fields.length < items.length) :
    ∃ e, readElements length fields record items = .error e := by
  induction fields generalizing record items with
  | nil =>
    cases items with
    | nil => cases h
    | cons json items => exact ⟨_, rfl⟩
  | cons field fields ih =>
    cases items with
    | nil => cases h
    | cons json items =>
      rw [readElements]
      cases field.read json with
      | ok update => exact ih (update record) (Nat.lt_of_succ_lt_succ h)
      | error e => exact ⟨e, rfl⟩

end Field

end SqlStatement
