import SqlStatement.Proofs.Decode.Record

/-!
# Reading over defaults

Settings are read by laying what is given over the defaults. `Field.Overlays` is what the fields of
one kind of settings have to do for that, member by member, and `Field.ReadsOver` what then comes of
every JSON value (`Overlays.readsOver`).
-/

namespace SqlStatement

namespace Field

variable {δ : Type}

/-- Each member that a record is written with puts its field, and no other, into an overlay. -/
structure Overlays (fields : List (Field δ)) (defaults : δ) (written : δ → Members Json)
    (overlay : δ → (String → Bool) → δ) : Prop where
  nodup_names : (fields.map name).Nodup
  keys_written : ∀ record, (written record).map Prod.fst = fields.map name
  overlay_none : ∀ record, overlay record (fun _ => false) = defaults
  overlay_all : ∀ record, overlay record (fun _ => true) = record
  congr : ∀ record chosen chosen', (∀ key ∈ fields.map name, chosen key = chosen' key) →
    overlay record chosen = overlay record chosen'
  visit_written : ∀ record, ∀ m ∈ written record, ∀ chosen,
    visit fields (overlay record chosen) m =
      .ok (overlay record fun key => chosen key || m.1 == key)

/-- What comes of reading settings that are written with `written`, have the fields `names` in
declared order, and take the values `Accepts` for them. `overlay record chosen` is the defaults with
the chosen fields of the record. -/
structure ReadsOver (read : Json → Except DecodeError δ) (names : List String)
    (written : δ → Members Json) (overlay : δ → (String → Bool) → δ)
    (Accepts : String → Json → Prop) : Prop where
  /-- Any of the members that settings were written with, in any order and among unknown ones. -/
  object : ∀ (record : δ) (chosen : String → Bool) (extra members : Members Json),
    (∀ m ∈ extra, m.1 ∉ names) →
    members.Perm (((written record).filter fun m => chosen m.1) ++ extra) →
    read (.obj members) = .ok (overlay record chosen)
  /-- The leading values that settings were written with. -/
  array : ∀ (record : δ) (count : Nat),
    read (.arr (((written record).map Prod.snd).take count)) =
      .ok (overlay record fun key => (names.take count).contains key)
  /-- More values than there are fields. -/
  excess : ∀ items : List Json, names.length < items.length → ∃ e, read (.arr items) = .error e
  /-- All that settings were written with. -/
  whole : ∀ record, read (.obj (written record)) = .ok record ∧
    read (.arr ((written record).map Prod.snd)) = .ok record
  accepted : ∀ members : Members Json, (∀ m ∈ Members.ofList members, Accepts m.1 m.2) →
    ∃ record, read (.obj members) = .ok record
  /-- The error is that of the least key that is refused, as when its member stands alone. -/
  refused : ∀ members : Members Json, (∃ m ∈ Members.ofList members, ¬Accepts m.1 m.2) →
    ∃ m e, m ∈ Members.ofList members ∧ ¬Accepts m.1 m.2 ∧
      (∀ other ∈ Members.ofList members, other.1 < m.1 → Accepts other.1 other.2) ∧
      read (.obj members) = .error e ∧ read (.obj [m]) = .error e

theorem readMembers_singleton_of_refused {fields : List (Field δ)} {m : String × Json}
    {e : DecodeError} (h : refusal fields m = some e) (record : δ) :
    readMembers fields record [m] = .error e :=
  foldlM_visit_of_refused (List.forall_mem_nil _) h record

theorem any_key_iff {members : Members Json} {key : String} :
    members.any (·.1 == key) = true ↔ key ∈ members.map Prod.fst := by
  simp

namespace Overlays

variable {fields : List (Field δ)} {defaults : δ} {written : δ → Members Json}
  {overlay : δ → (String → Bool) → δ}

theorem visit_unknown (h : Overlays fields defaults written overlay) {m : String × Json}
    (hm : m.1 ∉ fields.map name) (record : δ) (chosen : String → Bool) :
    visit fields (overlay record chosen) m =
      .ok (overlay record fun key => chosen key || m.1 == key) := by
  rw [visit_of_unknown hm]
  refine congrArg _ (h.congr record _ _ fun key hkey => ?_)
  have hne : m.1 ≠ key := fun heq => hm (heq ▸ hkey)
  simp [hne]

/-- Members that a record is written with choose their fields, and unknown ones nothing. -/
theorem foldlM_visit (h : Overlays fields defaults written overlay) {record : δ}
    {members : Members Json} (hmembers : ∀ m ∈ members, m ∈ written record ∨ m.1 ∉ fields.map name)
    (chosen : String → Bool) :
    members.foldlM (visit fields) (overlay record chosen) =
      .ok (overlay record fun key => chosen key || members.any (·.1 == key)) := by
  induction members generalizing chosen with
  | nil => simp [pure, Except.pure]
  | cons m rest ih =>
    simp only [List.mem_cons, forall_eq_or_imp] at hmembers
    have hvisit : visit fields (overlay record chosen) m =
        .ok (overlay record fun key => chosen key || m.1 == key) :=
      hmembers.1.elim (fun hm => h.visit_written record m hm chosen)
        fun hm => h.visit_unknown hm record chosen
    rw [List.foldlM_cons, hvisit]
    refine (ih hmembers.2 _).trans ?_
    simp [Bool.or_assoc]

/-- From the defaults on, members choose the fields of their keys. -/
theorem foldlM_visit_defaults (h : Overlays fields defaults written overlay) {record : δ}
    {members : Members Json} (hmembers : ∀ m ∈ members, m ∈ written record ∨ m.1 ∉ fields.map name)
    {chosen : String → Bool}
    (hchosen : ∀ key ∈ fields.map name, key ∈ members.map Prod.fst ↔ chosen key = true) :
    members.foldlM (visit fields) defaults = .ok (overlay record chosen) := by
  rw [← h.overlay_none record, h.foldlM_visit hmembers]
  refine congrArg _ (h.congr record _ _ fun key hkey => ?_)
  rw [Bool.false_or, Bool.eq_iff_iff, any_key_iff, hchosen key hkey]

/-- The known keys of chosen members and unknown ones are the chosen names. -/
theorem mem_keys_chosen (h : Overlays fields defaults written overlay) {record : δ}
    {chosen : String → Bool} {extra members : Members Json}
    (hextra : ∀ m ∈ extra, m.1 ∉ fields.map name)
    (hperm : members.Perm (((written record).filter fun m => chosen m.1) ++ extra)) {key : String}
    (hkey : key ∈ fields.map name) : key ∈ members.map Prod.fst ↔ chosen key = true := by
  rw [(hperm.map Prod.fst).mem_iff, List.map_append, List.mem_append]
  constructor
  · rintro (hmem | hmem)
    · obtain ⟨m, hm, rfl⟩ := List.mem_map.mp hmem
      exact (List.mem_filter.mp hm).2
    · obtain ⟨m, hm, rfl⟩ := List.mem_map.mp hmem
      exact absurd hkey (hextra m hm)
  · intro hchosen
    rw [← h.keys_written record] at hkey
    obtain ⟨m, hm, rfl⟩ := List.mem_map.mp hkey
    exact .inl (List.mem_map_of_mem (List.mem_filter.mpr ⟨hm, hchosen⟩))

theorem readMembers_eq (h : Overlays fields defaults written overlay) {record : δ}
    {chosen : String → Bool} {extra members : Members Json}
    (hextra : ∀ m ∈ extra, m.1 ∉ fields.map name)
    (hperm : members.Perm (((written record).filter fun m => chosen m.1) ++ extra)) :
    readMembers fields defaults members = .ok (overlay record chosen) := by
  refine h.foldlM_visit_defaults (fun m hm => ?_) fun key hkey => ?_
  · rcases List.mem_append.mp (hperm.mem_iff.mp (Members.mem_of_mem_ofList hm)) with hm | hm
    · exact .inl (List.mem_of_mem_filter hm)
    · exact .inr (hextra m hm)
  · rw [Members.mem_keys_ofList, h.mem_keys_chosen hextra hperm hkey]

theorem readElements_eq (h : Overlays fields defaults written overlay) (record : δ)
    (count length : Nat) :
    readElements length fields defaults (((written record).map Prod.snd).take count) =
      .ok (overlay record fun key => ((fields.map name).take count).contains key) := by
  have hkeys : ((written record).take count).map Prod.fst = (fields.map name).take count := by
    rw [List.map_take, h.keys_written]
  rw [← List.map_take, readElements_eq_foldlM h.nodup_names (fun _ hfield => hfield)
    (hkeys ▸ List.take_prefix count _)]
  refine h.foldlM_visit_defaults (fun m hm => .inl (List.mem_of_mem_take hm)) fun key _ => ?_
  rw [hkeys, List.contains_iff_mem]

theorem readMembers_written (h : Overlays fields defaults written overlay) (record : δ) :
    readMembers fields defaults (written record) = .ok record := by
  have hread : readMembers fields defaults (written record) =
      .ok (overlay record fun _ => true) :=
    h.readMembers_eq (List.forall_mem_nil _) (by simp)
  rwa [h.overlay_all] at hread

theorem readElements_written (h : Overlays fields defaults written overlay) (record : δ)
    (length : Nat) :
    readElements length fields defaults ((written record).map Prod.snd) = .ok record := by
  have hkeys := h.keys_written record
  have hread : (written record).foldlM (visit fields) defaults =
      .ok (overlay record fun _ => true) :=
    h.foldlM_visit_defaults (fun m hm => .inl hm) fun key hkey => iff_of_true (hkeys ▸ hkey) rfl
  rw [readElements_eq_foldlM h.nodup_names (fun _ hfield => hfield) (hkeys ▸ List.prefix_rfl),
    hread, h.overlay_all]

/-- Settings whose fields overlay their defaults are read over them. -/
theorem readsOver (h : Overlays fields defaults written overlay) {Accepts : String → Json → Prop}
    (haccepts : ∀ m, refusal fields m = none ↔ Accepts m.1 m.2) (title : String) :
    ReadsOver (Field.overlay title fields defaults) (fields.map name) written overlay Accepts where
  object record chosen extra members hextra hperm := h.readMembers_eq hextra hperm
  array record count := h.readElements_eq record count _
  excess items hlength := readElements_of_length_lt _ fields defaults (by simpa using hlength)
  whole record := ⟨h.readMembers_written record, h.readElements_written record _⟩
  accepted members haccepted := by
    simp only [← haccepts] at haccepted
    exact readMembers_of_accepted haccepted defaults
  refused members hrefused := by
    simp only [← haccepts] at hrefused ⊢
    obtain ⟨m, e, hm, he, hleast, herror⟩ := readMembers_of_refused hrefused defaults
    exact ⟨m, e, hm, by simp [he], hleast, herror, readMembers_singleton_of_refused he defaults⟩

end Overlays

end Field

end SqlStatement
