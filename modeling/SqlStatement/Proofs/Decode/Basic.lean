import Mathlib.Data.List.Forall2
import Mathlib.Data.List.Nodup
import SqlStatement.Decode.Variant

/-!
# What decoders accept

For each decoder, the JSON values that it accepts and what it reads from them: integers in a range
(`Decode.integer_eq_ok_iff`), numbers, texts, truths, lists (`Decode.mapM_eq_ok_iff`) and named
variants (`Variant.read_eq_ok_iff`). An object counts by its members in order, each key once
(`Members.ofList`).
-/

namespace SqlStatement

theorem Except.map_eq_ok_iff {ε α β : Type} {f : α → β} {x : Except ε α} {b : β} :
    x.map f = .ok b ↔ ∃ a, x = .ok a ∧ f a = b := by
  cases x <;> simp [Except.map]

theorem Except.bind_eq_ok_iff {ε α β : Type} {x : Except ε α} {f : α → Except ε β} {b : β} :
    (x >>= f) = .ok b ↔ ∃ a, x = .ok a ∧ f a = .ok b := by
  cases x <;> simp [bind, Except.bind]

theorem Except.bind_eq_error_iff {ε α β : Type} {x : Except ε α} {f : α → Except ε β} {e : ε} :
    (x >>= f) = .error e ↔ x = .error e ∨ ∃ a, x = .ok a ∧ f a = .error e := by
  cases x <;> simp [bind, Except.bind]

/-- Where the keys differ, looking for the key of an element finds the element. -/
theorem find?_eq_some_of_mem {α : Type} {key : α → String} {as : List α}
    (hkeys : (as.map key).Nodup) {a : α} (ha : a ∈ as) :
    as.find? (fun b => key b == key a) = some a := by
  obtain ⟨b, hfind⟩ : ∃ b, as.find? (fun b => key b == key a) = some b :=
    Option.isSome_iff_exists.mp (List.find?_isSome.mpr ⟨a, ha, by simp⟩)
  have hkey : key b = key a := by simpa using List.find?_some hfind
  rw [hfind, List.inj_on_of_nodup_map hkeys (List.mem_of_find?_eq_some hfind) ha hkey]

namespace Decode

variable {α : Type}

/-! ## Numbers -/

theorem integer_eq_ok_iff {wanted : Wanted} {lower upper : Int} {make : Int → α} {json : Json}
    {a : α} :
    integer wanted lower upper make json = .ok a ↔
      ∃ n, json = .int n ∧ lower ≤ n.val ∧ n.val < upper ∧ make n.val = a := by
  cases json with
  | int n =>
    by_cases h : lower ≤ n.val ∧ n.val < upper
    · simp [integer, h]
    · simp only [integer, if_neg h, reduceCtorEq, Json.int.injEq, false_iff]
      rintro ⟨_, rfl, hlower, hupper, -⟩
      exact h ⟨hlower, hupper⟩
  | _ => simp [integer, wrongType]

/-- An integer stands for the real nearest to it. -/
theorem binary64_eq_ok_iff {json : Json} {x : Binary64} :
    (decode json : Except DecodeError Binary64) = .ok x ↔
      (∃ y, json = .real y ∧ y.val = x) ∨ ∃ n, json = .int n ∧ Binary64.ofInt n.val = x := by
  cases json <;> simp [decode, wrongType]

theorem decode_ofInt64 (n : Int64) : decode (Json.ofInt64 n) = .ok n := by
  exact integer_eq_ok_iff.mpr ⟨_, rfl, n.le_toInt, n.toInt_lt, Int64.ofInt_toInt n⟩

theorem decode_ofUInt32 (n : UInt32) : decode (Json.ofUInt32 n) = .ok n := by
  exact integer_eq_ok_iff.mpr
    ⟨_, rfl, Int.natCast_nonneg _, Int.ofNat_lt.mpr n.toNat_lt, by simp⟩

theorem decode_ofUInt8 (n : UInt8) : decode (Json.ofUInt8 n) = .ok n := by
  exact integer_eq_ok_iff.mpr
    ⟨_, rfl, Int.natCast_nonneg _, Int.ofNat_lt.mpr n.toNat_lt, by simp⟩

theorem exists_uint32_iff {json : Json} :
    (∃ a : UInt32, decode json = .ok a) ↔
      ∃ n : Json.Integer, json = .int n ∧ 0 ≤ n.val ∧ n.val < 0x100000000 := by
  constructor
  · rintro ⟨a, ha⟩
    obtain ⟨n, hn, hlower, hupper, -⟩ := integer_eq_ok_iff.mp ha
    exact ⟨n, hn, hlower, hupper⟩
  · rintro ⟨n, hn, hlower, hupper⟩
    exact ⟨_, integer_eq_ok_iff.mpr ⟨n, hn, hlower, hupper, rfl⟩⟩

/-- A finite number is read back by its bits. -/
theorem decode_ofBinary64 {x : Binary64} (h : x.isFinite = true) :
    decode (Json.ofBinary64 x) = .ok x := by
  simp [Json.ofBinary64, FiniteBinary64.ofBinary64?, h, decode]

/-! ## Texts and truths -/

theorem string_eq_ok_iff {json : Json} {s : String} :
    (decode json : Except DecodeError String) = .ok s ↔ json = .str s := by
  cases json <;> simp [decode, wrongType]

theorem decode_ofOption_str (text : Option String) :
    decode (Json.ofOption .str text) = .ok text := by
  cases text <;> rfl

theorem exists_optionString_iff {json : Json} :
    (∃ text : Option String, decode json = .ok text) ↔ json = .null ∨ ∃ s, json = .str s := by
  cases json <;> simp [decode, wrongType, Except.map]

theorem bool_eq_ok_iff {json : Json} {b : Bool} :
    (decode json : Except DecodeError Bool) = .ok b ↔ json = .bool b := by
  cases json <;> simp [decode, wrongType]

/-! ## Lists -/

theorem mapM_eq_ok_iff {ε β : Type} {read : α → Except ε β} {items : List α}
    {values : List β} :
    items.mapM read = .ok values ↔
      List.Forall₂ (fun item value => read item = .ok value) items values := by
  induction items generalizing values with
  | nil => simp [pure, Except.pure, eq_comm]
  | cons item items ih =>
    simp only [List.mapM_cons, Except.bind_eq_ok_iff, ih]
    constructor
    · rintro ⟨value, hvalue, rest, hrest, hvalues⟩
      cases hvalues
      exact .cons hvalue hrest
    · rintro (_ | ⟨hvalue, hrest⟩)
      exact ⟨_, hvalue, _, hrest, rfl⟩

/-- The first element that fails gives the error. -/
theorem mapM_eq_error_iff {ε β : Type} {read : α → Except ε β} {items : List α} {e : ε} :
    items.mapM read = .error e ↔
      ∃ before item after, items = before ++ item :: after ∧
        (∀ earlier ∈ before, ∃ value, read earlier = .ok value) ∧ read item = .error e := by
  induction items with
  | nil => simp [pure, Except.pure]
  | cons item items ih =>
    rw [List.mapM_cons, Except.bind_eq_error_iff]
    constructor
    · rintro (hitem | ⟨value, hvalue, hrest⟩)
      · exact ⟨[], item, items, rfl, by simp, hitem⟩
      · obtain hrest | ⟨values, -, hpure⟩ := Except.bind_eq_error_iff.mp hrest
        · obtain ⟨before, failing, after, rfl, hbefore, hfailing⟩ := ih.mp hrest
          refine ⟨item :: before, failing, after, rfl, ?_, hfailing⟩
          rintro earlier (_ | ⟨_, hearlier⟩)
          · exact ⟨value, hvalue⟩
          · exact hbefore earlier hearlier
        · cases hpure
    · rintro ⟨before, failing, after, hitems, hbefore, hfailing⟩
      cases before with
      | nil =>
        obtain ⟨rfl, -⟩ := List.cons.inj hitems
        exact .inl hfailing
      | cons first before =>
        obtain ⟨rfl, hrest⟩ := List.cons.inj hitems
        obtain ⟨value, hvalue⟩ := hbefore item (by simp)
        refine .inr ⟨value, hvalue, Except.bind_eq_error_iff.mpr (.inl (ih.mpr ?_))⟩
        exact ⟨before, failing, after, hrest, fun r hr => hbefore r (by simp [hr]), hfailing⟩

theorem list_eq_ok_iff [Decode α] {json : Json} {values : List α} :
    (decode json : Except DecodeError (List α)) = .ok values ↔
      ∃ items, json = .arr items ∧
        List.Forall₂ (fun item value => decode item = .ok value) items values := by
  cases json with
  | arr items => simp [decode, mapM_eq_ok_iff]
  | _ => simp [decode, wrongType]

/-- If every element is read back, so is a list of them. -/
theorem decode_arr_map [Decode α] {encode : α → Json} (h : ∀ a, decode (encode a) = .ok a)
    (as : List α) : decode (.arr (as.map encode)) = .ok as := by
  refine list_eq_ok_iff.mpr ⟨_, rfl, ?_⟩
  rw [List.forall₂_map_left_iff]
  exact List.forall₂_same.mpr fun a _ => h a

end Decode

/-! ## Named variants -/

namespace Variant

variable {α : Type}

/-- What the variant reads from a JSON value: its name alone or with `null`, if it holds nothing,
and else its content under its name. -/
def Reads (variant : Variant α) (json : Json) (a : α) : Prop :=
  match variant.content with
  | .nothing value =>
    a = value ∧ (json = .str variant.name ∨
      ∃ members, json = .obj members ∧ Members.ofList members = [(variant.name, .null)])
  | .value read =>
    ∃ members inner, json = .obj members ∧ Members.ofList members = [(variant.name, inner)] ∧
      read inner = .ok a

theorem reads_plain_iff {name : String} {value : α} {json : Json} {a : α} :
    (plain name value).Reads json a ↔
      a = value ∧ (json = .str name ∨
        ∃ members, json = .obj members ∧ Members.ofList members = [(name, .null)]) := Iff.rfl

theorem reads_holding_iff {β : Type} [Decode β] {name : String} {make : β → α} {json : Json}
    {a : α} :
    (holding name make).Reads json a ↔
      ∃ members inner b, json = .obj members ∧ Members.ofList members = [(name, inner)] ∧
        decode inner = .ok b ∧ make b = a := by
  constructor
  · rintro ⟨members, inner, hjson, hsingle, hread⟩
    obtain ⟨b, hb, hmake⟩ := Except.map_eq_ok_iff.mp hread
    exact ⟨members, inner, b, hjson, hsingle, hb, hmake⟩
  · rintro ⟨members, inner, b, hjson, hsingle, hb, hmake⟩
    exact ⟨members, inner, hjson, hsingle, Except.map_eq_ok_iff.mpr ⟨b, hb, hmake⟩⟩

/-- Where the names differ, a name finds its own variant. -/
theorem select_eq_ok_iff {variants : List (Variant α)} (hnames : (variants.map name).Nodup)
    {name : String} {content : Content α} :
    select variants name = .ok content ↔ ⟨name, content⟩ ∈ variants := by
  unfold select
  constructor
  · intro h
    split at h
    · next variant hfind =>
      have hname : variant.name = name := by simpa using List.find?_some hfind
      cases h
      exact hname ▸ List.mem_of_find?_eq_some hfind
    · cases h
  · intro hmem
    rw [find?_eq_some_of_mem hnames hmem]

theorem read_obj (variants : List (Variant α)) (members : Members Json) :
    read variants (.obj members) =
      match Members.ofList members with
      | [(name, json)] => select variants name >>= fun content => readContent content json
      | _ => .error (.invalidValue .map .singleKeyMap) := rfl

/-- Variants of different names accept what one of them reads. -/
theorem read_eq_ok_iff {variants : List (Variant α)} (hnames : (variants.map name).Nodup)
    {json : Json} {a : α} :
    read variants json = .ok a ↔ ∃ variant ∈ variants, variant.Reads json a := by
  constructor
  · intro h
    cases json with
    | str name =>
      obtain ⟨content, hselect, hread⟩ := Except.bind_eq_ok_iff.mp h
      refine ⟨⟨name, content⟩, (select_eq_ok_iff hnames).mp hselect, ?_⟩
      cases content with
      | nothing value => cases hread; exact ⟨rfl, .inl rfl⟩
      | value inner => cases hread
    | obj members =>
      rw [read_obj] at h
      split at h
      · next name inner hsingle =>
        obtain ⟨content, hselect, hread⟩ := Except.bind_eq_ok_iff.mp h
        refine ⟨⟨name, content⟩, (select_eq_ok_iff hnames).mp hselect, ?_⟩
        cases content with
        | nothing value =>
          cases inner <;> simp [readContent, Decode.wrongType] at hread
          exact ⟨hread.symm, .inr ⟨members, rfl, hsingle⟩⟩
        | value reader => exact ⟨members, inner, rfl, hsingle, hread⟩
      · cases h
    | _ => simp [read, Decode.wrongType] at h
  · rintro ⟨⟨name, content⟩, hmem, hreads⟩
    have hselect := (select_eq_ok_iff hnames).mpr hmem
    cases content with
    | nothing value =>
      obtain ⟨rfl, rfl | ⟨members, rfl, hsingle⟩⟩ := hreads
      · exact Except.bind_eq_ok_iff.mpr ⟨_, hselect, rfl⟩
      · rw [read_obj, hsingle]
        exact Except.bind_eq_ok_iff.mpr ⟨_, hselect, rfl⟩
    | value reader =>
      obtain ⟨members, inner, rfl, hsingle, hread⟩ := hreads
      rw [read_obj, hsingle]
      exact Except.bind_eq_ok_iff.mpr ⟨_, hselect, hread⟩

/-- The name by itself, or an object whose one member is `null` under the name. -/
def Named (name : String) (json : Json) : Prop :=
  json = .str name ∨ ∃ members, json = .obj members ∧ Members.ofList members = [(name, .null)]

/-- Where every value is a variant that holds nothing, it is read from its name. -/
theorem read_plain_eq_ok_iff {values : List α} {name : α → String}
    (hnames : (values.map name).Nodup) (hall : ∀ a, a ∈ values) {json : Json} {a : α} :
    read (values.map fun value => plain (name value) value) json = .ok a ↔ Named (name a) json := by
  have hkeys : ((values.map fun value => plain (name value) value).map Variant.name).Nodup := by
    rwa [List.map_map]
  rw [read_eq_ok_iff hkeys]
  constructor
  · rintro ⟨variant, hvariant, hreads⟩
    obtain ⟨value, -, rfl⟩ := List.mem_map.mp hvariant
    obtain ⟨rfl, hjson⟩ := hreads
    exact hjson
  · intro hjson
    exact ⟨_, List.mem_map_of_mem (hall a), rfl, hjson⟩

end Variant

end SqlStatement
