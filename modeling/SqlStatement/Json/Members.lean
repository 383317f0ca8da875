/-!
# Members under text keys

`Members α` is a list of values under text keys, as in an object. `Members.ofList` collects
members into ascending order of the keys, the last of several members with one key winning: the
keys ascend (`ascending_ofList`), and what is kept under a key is the last value given for it
(`lookup_ofList`). Keys are ordered by code points.
-/

namespace SqlStatement

/-- The members of an object, or any other values under text keys. -/
abbrev Members (α : Type) := List (String × α)

namespace Members

variable {α : Type}

/-- Puts a value under a key into a list in ascending order, in place of one already there. -/
def insert (key : String) (value : α) : Members α → Members α
  | [] => [(key, value)]
  | (k, v) :: rest =>
    if key < k then (key, value) :: (k, v) :: rest
    else if key = k then (key, value) :: rest
    else (k, v) :: insert key value rest

/-- Members in ascending order of the keys, each key once; the last value given for a key wins. -/
def ofList (members : Members α) : Members α :=
  members.foldl (fun sorted member => insert member.1 member.2 sorted) []

def Ascending (members : Members α) : Prop :=
  members.Pairwise fun a b => a.1 < b.1

theorem mem_keys_insert {key k : String} {value : α} {members : Members α} :
    k ∈ (insert key value members).map Prod.fst ↔ k = key ∨ k ∈ members.map Prod.fst := by
  induction members with
  | nil => simp [insert]
  | cons m rest ih =>
    obtain ⟨k', v⟩ := m
    unfold insert
    split
    · simp
    · split
      · next h => subst h; simp
      · simp only [List.map_cons, List.mem_cons, ih]
        constructor <;> (rintro (h | h | h) <;> simp [h])

theorem Ascending.insert {key : String} {value : α} {members : Members α}
    (h : Ascending members) : Ascending (Members.insert key value members) := by
  induction members with
  | nil => simp [Members.insert, Ascending]
  | cons m rest ih =>
    obtain ⟨k, v⟩ := m
    obtain ⟨hk, hrest⟩ := List.pairwise_cons.1 h
    unfold Members.insert
    split
    · next hlt =>
      refine List.pairwise_cons.2 ⟨?_, h⟩
      intro b hb
      rcases List.mem_cons.1 hb with rfl | hb
      · exact hlt
      · exact String.lt_trans hlt (hk b hb)
    · split
      · next heq => subst heq; exact List.pairwise_cons.2 ⟨hk, hrest⟩
      · next hlt hne =>
        refine List.pairwise_cons.2 ⟨?_, ih hrest⟩
        intro b hb
        have hb' := (mem_keys_insert (k := b.1)).1 (List.mem_map_of_mem hb)
        rcases hb' with hb' | hb'
        · rw [hb']
          by_cases hgt : k < key
          · exact hgt
          · exact absurd (String.le_antisymm (String.not_lt.1 hgt) (String.not_lt.1 hlt)) hne
        · obtain ⟨c, hc, hcb⟩ := List.mem_map.1 hb'
          exact hcb ▸ hk c hc

theorem ascending_ofList (members : Members α) : Ascending (ofList members) := by
  have go : ∀ (ms sorted : Members α), Ascending sorted →
      Ascending (ms.foldl (fun sorted member => insert member.1 member.2 sorted) sorted) := by
    intro ms
    induction ms with
    | nil => exact fun _ h => h
    | cons m ms ih => exact fun sorted h => ih _ h.insert
  exact go members [] List.Pairwise.nil

theorem lookup_insert (key k : String) (value : α) (members : Members α) :
    (insert key value members).lookup k =
      if k = key then some value else members.lookup k := by
  induction members with
  | nil =>
    by_cases h : k = key
    · simp [insert, h]
    · have hb : (k == key) = false := by simp [h]
      simp [insert, List.lookup_cons, hb, h]
  | cons m rest ih =>
    obtain ⟨k', v⟩ := m
    unfold insert
    split
    · by_cases h : k = key
      · simp [h]
      · have hb : (k == key) = false := by simp [h]
        simp [List.lookup_cons, hb, h]
    · split
      · next heq =>
        subst heq
        by_cases h : k = key
        · simp [h]
        · have hb : (k == key) = false := by simp [h]
          simp [List.lookup_cons, hb, h]
      · next hne =>
        by_cases h' : k = k'
        · subst h'; simp [Ne.symm hne]
        · have hb : (k == k') = false := by simp [h']
          simp [List.lookup_cons, hb, ih]

/-- The value kept for a key is the last one given. -/
theorem lookup_ofList (members : Members α) (k : String) :
    (ofList members).lookup k = members.reverse.lookup k := by
  have go : ∀ (ms sorted : Members α),
      (ms.foldl (fun sorted member => insert member.1 member.2 sorted) sorted).lookup k =
        (ms.reverse.lookup k).or (sorted.lookup k) := by
    intro ms
    induction ms with
    | nil => simp
    | cons m ms ih =>
      intro sorted
      obtain ⟨key, value⟩ := m
      rw [List.foldl_cons, ih, lookup_insert, List.reverse_cons, List.lookup_append,
        List.lookup_cons, List.lookup_nil]
      by_cases h : k = key
      · have hb : (k == key) = true := by simp [h]
        rw [hb]
        cases ms.reverse.lookup k <;> simp [h]
      · have hb : (k == key) = false := by simp [h]
        rw [hb]
        cases ms.reverse.lookup k <;> simp [h]
  have := go members []
  rw [List.lookup_nil, Option.or_none] at this
  exact this

end Members

end SqlStatement
