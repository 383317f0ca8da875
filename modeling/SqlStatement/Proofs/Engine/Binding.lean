import SqlStatement.Engine.Selection
import SqlStatement.Proofs.Engine.Reading

/-!
# Variables with indices

A variable `?k` has the number `k` and is named by its marker (`assignAll_markers`). The numbers are
gone through from 1 on. One that no variable has takes an argument all the same, but as it has no
name, this changes nothing for the others: each of those is bound to the argument that its name says
(`bindNumbers_markers`). So a selection of markers has one row, with the argument of its index under
each marker (`rows_markers`).
-/

namespace SqlStatement

/-! ## Numbers -/

namespace Numbers

variable {numbers : Numbers}

/-- A variable has this number, under the name of its marker. -/
structure Has (numbers : Numbers) (number : Nat) : Prop where
  le_count : number ≤ numbers.count
  named : numbers.names.lookup number = some (Clause.marker number)

/-- All names are those of markers. -/
def OnlyMarkers (numbers : Numbers) : Prop :=
  ∀ number name, numbers.names.lookup number = some name → name = Clause.marker number

theorem lookup_addName (numbers : Numbers) (number : Nat) (name : String) (other : Nat) :
    (numbers.addName number name).names.lookup other =
      (numbers.names.lookup other).or (if other = number then some name else none) := by
  have hsingle : [(number, name)].lookup other = if other = number then some name else none := by
    by_cases h : other = number
    · simp [h]
    · rw [List.lookup_cons, beq_false_of_ne h, if_neg h]
      rfl
  unfold addName
  by_cases hnamed : (numbers.names.lookup number).isSome = true
  · rw [if_pos hnamed]
    by_cases h : other = number
    · subst h
      obtain ⟨found, hfound⟩ := Option.isSome_iff_exists.mp hnamed
      simp [hfound]
    · simp [h]
  · rw [if_neg hnamed, List.lookup_append, hsingle]

/-- A marker that is met gets its own number, and those that were met before keep theirs. -/
theorem addName_marker (h : numbers.OnlyMarkers) (number : Nat) :
    (numbers.addName number (Clause.marker number)).OnlyMarkers ∧
      (numbers.addName number (Clause.marker number)).Has number ∧
      ∀ other, numbers.Has other → (numbers.addName number (Clause.marker number)).Has other := by
  refine ⟨fun other name hname => ?_, ?_, fun other hother => ?_⟩
  · rw [lookup_addName, Option.or_eq_some_iff] at hname
    rcases hname with hname | ⟨-, hname⟩
    · exact h other name hname
    · split_ifs at hname with hother
      rw [hother]
      exact (Option.some.inj hname).symm
  · refine ⟨Nat.le_max_right _ _, ?_⟩
    rw [lookup_addName, if_pos rfl]
    cases hfound : numbers.names.lookup number with
    | none => rfl
    | some name => rw [h number name hfound, Option.some_or]
  · refine ⟨Nat.le_trans hother.le_count (Nat.le_max_left _ _), ?_⟩
    rw [lookup_addName, hother.named, Option.some_or]

/-- The variables of markers get the indices as their numbers. -/
theorem assignAll_markers {limit : Nat} (hlimit : limit ≤ maxVariables) {indices : List Nat}
    (hindices : ∀ index ∈ indices, 1 ≤ index ∧ index ≤ limit) (h : numbers.OnlyMarkers)
    (hcount : numbers.count ≤ limit) :
    ∃ after, numbers.assignAll (indices.map fun index => .parameter (.indexed index)) =
        .ok (indices.map .number, after) ∧
      after.OnlyMarkers ∧ after.count ≤ limit ∧ (∀ index ∈ indices, after.Has index) ∧
      ∀ number, numbers.Has number → after.Has number := by
  induction indices generalizing numbers with
  | nil => exact ⟨numbers, rfl, h, hcount, List.forall_mem_nil _, fun _ hhas => hhas⟩
  | cons index rest ih =>
    obtain ⟨⟨hpos, hle⟩, hrest⟩ := List.forall_mem_cons.mp hindices
    obtain ⟨hmarkers, hhas, hkept⟩ := addName_marker h index
    have hcount' : (numbers.addName index (Clause.marker index)).count ≤ limit :=
      Nat.max_le.mpr ⟨hcount, hle⟩
    obtain ⟨after, hafter, hmarkers', hle', hrest', hkept'⟩ := ih hrest hmarkers hcount'
    have hassign : numbers.assign (.indexed index) =
        .ok (index, numbers.addName index (Clause.marker index)) :=
      if_pos ⟨hpos, Nat.le_trans hle hlimit⟩
    refine ⟨after, ?_, hmarkers', hle', List.forall_mem_cons.mpr ⟨hkept' index hhas, hrest'⟩,
      fun number hnumber => hkept' number (hkept number hnumber)⟩
    rw [List.map_cons, assignAll, hassign]
    show (assignAll _ _).bind _ = _
    rw [hafter]
    rfl

end Numbers

/-! ## Binding -/

namespace Binding

/-- The index in the name of a marker is its own. -/
theorem namedIndex_marker {index : Nat} (h : index < Marker.indexLimit) :
    namedIndex (Clause.marker index) = .ok index := by
  have hdigits : (Nat.toDigits 10 index).takeWhile Char.isDigit = Nat.toDigits 10 index :=
    List.takeWhile_eq_self_iff.mpr fun _ => isDigit_of_mem_toDigits
  rw [namedIndex, Token.toList_marker]
  simp [hdigits, Token.decimalValue_toDigits, h, Nat.toDigits_ne_nil]

/-- One number, with the argument that it takes. -/
theorem bindNumbers_cons {names : List (Nat × String)} {args : List Argument}
    {number index unnamed unnamed' : Nat} {rest : List Nat} {bound : List (Nat × Cell)}
    (hindex : indexOf names unnamed number = .ok (index, unnamed'))
    (hpos : index ≠ 0) (hle : index ≤ args.length)
    (hrest : bindNumbers names args unnamed' rest = .ok bound) :
    bindNumbers names args unnamed (number :: rest) =
      .ok ((number, args[index - 1].cell) :: bound) := by
  have harg : args[index - 1]? = some args[index - 1] := List.getElem?_eq_getElem (by omega)
  rw [bindNumbers, hindex]
  show (if index = 0 then _ else _) = _
  simp only [if_neg hpos, harg, hrest]
  rfl

/-- A number under the name of its marker is bound to the argument with this index. -/
theorem bindNumbers_markers {names : List (Nat × String)} {args : List Argument}
    (hnames : ∀ number name, names.lookup number = some name → name = Clause.marker number)
    (hargs : args.length < Marker.indexLimit) {start count unnamed : Nat}
    (hunnamed : unnamed < start) (hlast : start + count ≤ args.length + 1) :
    ∃ bound, bindNumbers names args unnamed (List.range' start count) = .ok bound ∧
      ∀ number (hnumber : number - 1 < args.length), number ∈ List.range' start count →
        names.lookup number = some (Clause.marker number) →
          bound.lookup number = some args[number - 1].cell := by
  induction count generalizing start unnamed with
  | zero => exact ⟨[], rfl, fun _ _ hmem => absurd hmem List.not_mem_nil⟩
  | succ count ih =>
    -- Whichever argument this number takes, those behind it are bound as before.
    have hnext : ∀ {unnamed' index : Nat}, unnamed' < start + 1 → index ≠ 0 →
        (hle : index - 1 < args.length) →
        indexOf names unnamed start = .ok (index, unnamed') →
        (names.lookup start = some (Clause.marker start) → index = start) →
        ∃ bound, bindNumbers names args unnamed (List.range' start (count + 1)) = .ok bound ∧
          ∀ number (hnumber : number - 1 < args.length),
            number ∈ List.range' start (count + 1) →
              names.lookup number = some (Clause.marker number) →
                bound.lookup number = some args[number - 1].cell := by
      intro unnamed' index hless hpos hle hindex hown
      obtain ⟨bound, hbound, hlookup⟩ := ih hless (by omega)
      refine ⟨_, bindNumbers_cons hindex hpos (by omega) hbound, ?_⟩
      intro number hnumber hmem hname
      by_cases hself : number = start
      · subst hself
        obtain rfl := hown hname
        exact List.lookup_cons_self
      · have hbehind : number ∈ List.range' (start + 1) count := by
          rw [List.mem_range'_1] at hmem ⊢
          omega
        rw [List.lookup_cons, beq_false_of_ne hself]
        exact hlookup number hnumber hbehind hname
    cases hfound : names.lookup start with
    | none =>
      have hindex : indexOf names unnamed start = .ok (unnamed + 1, unnamed + 1) := by
        rw [indexOf, hfound]
      refine hnext (by omega) (by omega) (by omega) hindex fun hname => ?_
      rw [hfound] at hname
      cases hname
    | some name =>
      obtain rfl := hnames start name hfound
      have hindex : indexOf names unnamed start = .ok (start, unnamed) := by
        rw [indexOf, hfound]
        show (namedIndex _).map _ = _
        rw [namedIndex_marker (by omega)]
        rfl
      exact hnext (by omega) (by omega) (by omega) hindex fun _ => rfl

/-- The cell of the argument with this index; null where there is none. -/
def cellAt (args : List Argument) (index : Nat) : Cell :=
  ((args[index - 1]?).map Argument.cell).getD .null

end Binding

/-! ## The row -/

namespace Selection

open Statement

/-- A selection of markers has one row: under each marker the cell of the argument with its
index. -/
theorem rows_markers {args : List Argument} {indices : List Nat}
    (hcolumns : indices.length ≤ maxColumns) (hargs : args.length ≤ maxVariables)
    (hindices : ∀ index ∈ indices, 1 ≤ index ∧ index ≤ args.length) :
    (markerSelection indices).rows args =
      .ok [(indices.map Clause.marker).zip (indices.map (Binding.cellAt args))] := by
  have hcount : ¬maxColumns < (markerSelection indices).columns.length := by
    simpa [markerSelection] using hcolumns
  have hoperands : (markerSelection indices).columns.map ResultColumn.operand =
      indices.map fun index => .parameter (.indexed index) := by
    simp [markerSelection, markerColumn]
  have hnames : (markerSelection indices).columns.map ResultColumn.name =
      indices.map Clause.marker := by
    simp [markerSelection, markerColumn, Function.comp_def]
  have hnone : ({} : Numbers).OnlyMarkers := fun _ _ h => by cases h
  obtain ⟨numbers, hassign, hmarkers, hle, hhas, -⟩ :=
    Numbers.assignAll_markers hargs hindices hnone (Nat.zero_le _)
  have hrange : (List.range numbers.count).map (· + 1) = List.range' 1 numbers.count := by
    simp [List.range'_eq_map_range, Nat.add_comm 1]
  have hlimit : args.length < Marker.indexLimit := Nat.lt_of_le_of_lt hargs (by decide)
  have hlast : 1 + numbers.count ≤ args.length + 1 := by omega
  obtain ⟨bound, hbound, hlookup⟩ :=
    Binding.bindNumbers_markers hmarkers hlimit Nat.zero_lt_one hlast
  have hcells : (indices.map .number).map (Source.cell bound) =
      indices.map (Binding.cellAt args) := by
    rw [List.map_map]
    refine List.map_congr_left fun index hindex => ?_
    obtain ⟨hpos, hindexle⟩ := hindices index hindex
    have hlt : index - 1 < args.length := by omega
    have hmem : index ∈ List.range' 1 numbers.count :=
      List.mem_range'_1.mpr ⟨hpos, by have := (hhas index hindex).le_count; omega⟩
    have hfound := hlookup index hlt hmem (hhas index hindex).named
    simp [Source.cell, hfound, Binding.cellAt, List.getElem?_eq_getElem hlt]
  rw [rows, if_neg hcount, hoperands, hnames]
  show (Numbers.assignAll {} _).bind _ = _
  rw [hassign]
  show (Binding.bind numbers args).bind _ = _
  rw [Binding.bind, hrange, hbound]
  show Except.ok [_] = _
  rw [hcells]

end Selection

end SqlStatement
