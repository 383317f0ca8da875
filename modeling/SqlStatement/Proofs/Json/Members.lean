import Mathlib.Data.List.Basic
import Mathlib.Data.List.Induction
import SqlStatement.Json.Members
import SqlStatement.Proofs.Text.ByteOrder

/-!
# Members in order

Which members come out when members are put into order, each key once.

* `mem_ofList_iff`: those that no later member of their key replaces.
* `Ascending.ext`: members in ascending order are known by what they are, so members that are in
  order already stay as they are (`ofList_of_ascending`).
* `collected_iff`: members in order are the one object that comes of them when a later member
  replaces an earlier one of its key (`Collected`), with the keys in the order of their bytes.
-/

namespace SqlStatement

/-- The first value under a key. -/
theorem lookup_eq_some_iff_append {α : Type} {members : Members α} {key : String} {value : α} :
    members.lookup key = some value ↔ ∃ before after,
      members = before ++ (key, value) :: after ∧ key ∉ before.map Prod.fst := by
  rw [List.lookup_eq_some_iff]
  simp only [bne_iff_ne, ne_eq, List.mem_map, not_exists, not_and, @eq_comm _ key]

/-- The last value under a key. -/
theorem lookup_reverse_eq_some_iff {α : Type} {members : Members α} {key : String} {value : α} :
    members.reverse.lookup key = some value ↔ ∃ before after,
      members = before ++ (key, value) :: after ∧ key ∉ after.map Prod.fst := by
  rw [lookup_eq_some_iff_append]
  constructor
  · rintro ⟨before, after, hsplit, hkey⟩
    refine ⟨after.reverse, before.reverse, ?_, by simpa using hkey⟩
    rw [← List.reverse_reverse members, hsplit]
    simp
  · rintro ⟨before, after, rfl, hkey⟩
    exact ⟨after.reverse, before.reverse, by simp, by simpa using hkey⟩

theorem lookup_eq_none_iff_keys {α : Type} {members : Members α} {key : String} :
    members.lookup key = none ↔ key ∉ members.map Prod.fst := by
  rw [List.lookup_eq_none_iff]
  simp only [bne_iff_ne, ne_eq, List.mem_map, not_exists, not_and, @eq_comm _ key]

theorem lookup_map_values {α β : Type} (f : α → β) (members : Members α) (key : String) :
    List.lookup key (members.map fun m => (m.1, f m.2)) = (members.lookup key).map f := by
  induction members with
  | nil => rfl
  | cons m rest ih =>
    obtain ⟨k, value⟩ := m
    cases h : key == k <;> simp [List.lookup_cons, h, ih]

namespace Members

variable {α : Type}

theorem ofList_concat (members : Members α) (m : String × α) :
    ofList (members ++ [m]) = insert m.1 m.2 (ofList members) := by
  simp [ofList]

/-- Putting members into order keeps every key. -/
theorem mem_keys_ofList {members : Members α} {key : String} :
    key ∈ (ofList members).map Prod.fst ↔ key ∈ members.map Prod.fst := by
  induction members using List.reverseRecOn with
  | nil => rfl
  | append_singleton members last ih =>
    rw [ofList_concat, mem_keys_insert, ih]
    simp [or_comm]

/-! ## Ascending members -/

theorem Ascending.nodup_keys {members : Members α} (h : Ascending members) :
    (members.map Prod.fst).Nodup := by
  refine List.pairwise_map.mpr (h.imp ?_)
  intro a b hab heq
  exact String.lt_irrefl _ (heq ▸ hab)

theorem Ascending.nodup {members : Members α} (h : Ascending members) : members.Nodup := by
  apply List.Pairwise.imp _ h
  rintro a _ hab rfl
  exact String.lt_irrefl _ hab

theorem Ascending.map_values {β : Type} (f : α → β) {members : Members α} (h : Ascending members) :
    Ascending (members.map fun m => (m.1, f m.2)) :=
  List.pairwise_map.mpr h

/-- A member that stands in order is the only one of its key. -/
theorem Ascending.split_of_mem {members : Members α} (h : Ascending members) {key : String}
    {value : α} (hmem : (key, value) ∈ members) : ∃ before after,
      members = before ++ (key, value) :: after ∧
        key ∉ before.map Prod.fst ∧ key ∉ after.map Prod.fst := by
  obtain ⟨before, after, rfl⟩ := List.append_of_mem hmem
  have hnodup := h.nodup_keys
  rw [List.map_append, List.map_cons, List.nodup_append, List.nodup_cons] at hnodup
  exact ⟨before, after, rfl, fun hkey => hnodup.2.2 key hkey key List.mem_cons_self rfl,
    hnodup.2.1.1⟩

theorem Ascending.lookup_eq_some_iff {members : Members α} (h : Ascending members) {key : String}
    {value : α} : members.lookup key = some value ↔ (key, value) ∈ members := by
  rw [lookup_eq_some_iff_append]
  constructor
  · rintro ⟨before, after, rfl, -⟩
    simp
  · intro hmem
    obtain ⟨before, after, hsplit, hbefore, -⟩ := h.split_of_mem hmem
    exact ⟨before, after, hsplit, hbefore⟩

theorem Ascending.ext {as bs : Members α} (ha : Ascending as) (hb : Ascending bs)
    (h : ∀ m, m ∈ as ↔ m ∈ bs) : as = bs := by
  have hperm : as.Perm bs := (List.perm_ext_iff_of_nodup ha.nodup hb.nodup).mpr h
  refine hperm.eq_of_pairwise ?_ ha hb
  intro a b _ _ hab hba
  exact absurd (String.lt_trans hab hba) (String.lt_irrefl _)

/-! ## Putting members into order -/

/-- What is kept are the members that no later one of their key replaces. -/
theorem mem_ofList_iff {members : Members α} {key : String} {value : α} :
    (key, value) ∈ ofList members ↔ members.reverse.lookup key = some value := by
  rw [← (ascending_ofList members).lookup_eq_some_iff, lookup_ofList]

/-- Putting members into order adds none. -/
theorem mem_of_mem_ofList {members : Members α} {m : String × α} (h : m ∈ ofList members) :
    m ∈ members := by
  obtain ⟨before, after, rfl, -⟩ := lookup_reverse_eq_some_iff.mp (mem_ofList_iff.mp h)
  simp

/-- Members in ascending order stay as they are. -/
theorem ofList_of_ascending {members : Members α} (h : Ascending members) :
    ofList members = members := by
  refine (ascending_ofList members).ext h fun m => ⟨mem_of_mem_ofList, fun hmem => ?_⟩
  obtain ⟨before, after, hsplit, -, hafter⟩ := h.split_of_mem hmem
  exact mem_ofList_iff.mpr (lookup_reverse_eq_some_iff.mpr ⟨before, after, hsplit, hafter⟩)

/-- Putting members into order does not look at the values. -/
theorem ofList_map_values {β : Type} (f : α → β) (members : Members α) :
    ofList (members.map fun m => (m.1, f m.2)) = (ofList members).map fun m => (m.1, f m.2) := by
  have hascending := (ascending_ofList members).map_values f
  refine (ascending_ofList _).ext hascending ?_
  rintro ⟨key, value⟩
  rw [mem_ofList_iff, ← hascending.lookup_eq_some_iff, ← List.map_reverse, lookup_map_values,
    lookup_map_values, lookup_ofList]

/-! ## Objects -/

/-- Keys ascend if their bytes do. -/
theorem ascending_iff_bytes {members : Members α} :
    Ascending members ↔ members.Pairwise fun a b => Text.bytes a.1 < Text.bytes b.1 := by
  rw [Ascending]
  exact ⟨fun h => h.imp Text.bytes_lt_iff.mpr, fun h => h.imp Text.bytes_lt_iff.mp⟩

/-- The object that comes of members when a later one replaces an earlier one of its key: the keys
ascend by their bytes, and under each of them is the last value given for it. -/
structure Collected (members object : Members α) : Prop where
  ascending : object.Pairwise fun a b => Text.bytes a.1 < Text.bytes b.1
  last : ∀ key value, (key, value) ∈ object ↔ ∃ before after,
    members = before ++ (key, value) :: after ∧ key ∉ after.map Prod.fst

theorem collected_ofList (members : Members α) : Collected members (ofList members) :=
  ⟨ascending_iff_bytes.mp (ascending_ofList members), fun _ _ =>
    mem_ofList_iff.trans lookup_reverse_eq_some_iff⟩

/-- There is one such object. -/
theorem collected_iff {members object : Members α} :
    Collected members object ↔ object = ofList members := by
  constructor
  · rintro ⟨hascending, hlast⟩
    refine (ascending_iff_bytes.mpr hascending).ext (ascending_ofList members) fun m => ?_
    rw [hlast, mem_ofList_iff, lookup_reverse_eq_some_iff]
  · rintro rfl
    exact collected_ofList members

end Members

end SqlStatement
