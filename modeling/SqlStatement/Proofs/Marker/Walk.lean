import SqlStatement.Proofs.Marker.Sight
import SqlStatement.Proofs.Text.Boundary

/-!
# The walk over the bytes of a statement

`numberBytes` reads a statement by the offsets of its bytes and copies it in pieces. What it does at
one turn is set against what the scanner does on the bytes that it goes over.

* `Walk.Invariant`: what holds at the head of every turn. The markers that the scanner finds behind
  the offset follow those that were met, and what it writes there follows what has been written.
* `Walk.Invariant.turn`: a turn keeps the invariant, or there is no index left for the bare marker
  that comes next; so the walk comes to the end or to such a marker (`Walk.run_spec`).
* `numberBytes_eq`: the walk numbers as `number` does.
* `numberBytes_stops_only_without_index`: nothing else can go wrong on the walk.
-/

namespace SqlStatement

theorem bare_mem_markers_iff (sql : String) : .bare ∈ markers sql ↔ .bare ∈ rawMarkers sql := by
  rw [markers_eq_map, List.mem_map]
  constructor
  · rintro ⟨m, hm, hbare⟩
    cases m with
    | bare => exact hm
    | written index => cases hbare
  · exact fun h => ⟨.bare, h, rfl⟩

/-- A written index in range is the index of its marker. -/
theorem Marker.index_written {index : Nat} (h : index < indexLimit) (highest : Nat) :
    (Marker.written index).index highest = index := if_pos h

namespace Walk

/-- Where the walk stands at the head of a turn. -/
inductive Reached (sql : String) : Walk → Prop
  | start : Reached sql .start
  | turn {w w' : Walk} : Reached sql w → w.turn sql = .ok w' → Reached sql w'

def AtBare (sql : String) (w : Walk) : Prop :=
  w.region = .normal ∧ (Text.bytes sql)[w.offset]? = some '?'.toUInt8 ∧
    scanIndex (Text.bytes sql) (w.offset + 1) = .ok none

/-- What has been written of a statement when everything before the offset counts as written. -/
def written (sql : String) (w : Walk) : List UInt8 :=
  Text.bytes (w.text.getD "") ++ ((Text.bytes sql).drop w.copied).take (w.offset - w.copied)

structure Invariant (sql : String) (w : Walk) : Prop where
  copied_le : w.copied ≤ w.offset
  offset_le : w.offset ≤ (Text.bytes sql).length
  boundary : Text.OnBoundary sql w.copied
  legal : w.region.Legal
  highest_lt : w.highest < Marker.indexLimit
  fresh : w.text = none → w.copied = 0
  /-- The markers behind the offset follow those that were met. -/
  markers : ∃ met, markers sql =
      met ++ w.region.mode.markers (Text.octets ((Text.bytes sql).drop w.offset)) ∧
    w.highest = highestAfter 0 met ∧ (w.text.isSome = true ↔ Marker.bare ∈ met)
  /-- What is written for the bytes behind the offset follows what has been written. -/
  numbered : Text.octets (Text.bytes (numberedFrom 0 sql)) = Text.octets (w.written sql) ++
    w.region.mode.numbered w.highest (Text.octets ((Text.bytes sql).drop w.offset))

theorem markers_octets (sql : String) :
    ScanMode.plain.markers (Text.octets (Text.bytes sql)) = SqlStatement.markers sql := by
  rw [ScanMode.markers_eq_map, rawMarkers_octets, markers_eq_map]

theorem invariant_start (sql : String) : Invariant sql .start where
  copied_le := Nat.le_refl 0
  offset_le := Nat.zero_le _
  boundary := Text.onBoundary_zero sql
  legal := trivial
  highest_lt := by decide
  fresh _ := rfl
  markers := ⟨[], (markers_octets sql).symm, rfl, by simp [start]⟩
  numbered := (numbered_octets 0 sql).symm

/-- What a turn has to keep for the invariant to stay true. -/
theorem Invariant.next {sql : String} {w w' : Walk} {sight : Sight} {piece rest : List UInt8}
    (h : w.Invariant sql)
    (hshows : sight.Shows (Text.bytes sql) w.offset w.region piece rest)
    (hoffset : w'.offset = sight.last + 1) (hregion : w'.region = sight.region)
    (hhighest : w'.highest = highestAfter w.highest sight.marker.toList)
    (hlimit : w'.highest < Marker.indexLimit) (hcopied : w'.copied ≤ w'.offset)
    (hboundary : Text.OnBoundary sql w'.copied) (hfresh : w'.text = none → w'.copied = 0)
    (htext : w'.text.isSome = true ↔ w.text.isSome = true ∨ sight.marker = some .bare)
    (hwritten : Text.octets (w'.written sql) = Text.octets (w.written sql ++ piece) ++
      if sight.marker = some .bare then (toString (w.highest + 1)).toList else []) :
    w'.Invariant sql := by
  have hsplit := hshows.split
  have hend : w'.offset = w.offset + piece.length := hoffset.trans hshows.last
  have hrest : (Text.bytes sql).drop w'.offset = rest := by
    rw [hend, ← List.drop_drop, hsplit, List.drop_left]
  refine ⟨hcopied, ?_, hboundary, hregion ▸ hshows.legal, hlimit, hfresh, ?_, ?_⟩
  · have hlength := congrArg List.length hsplit
    have hle := h.offset_le
    rw [List.length_drop, List.length_append] at hlength
    omega
  · obtain ⟨met, hmarkers, hmet, hbare⟩ := h.markers
    refine ⟨met ++ sight.marker.toList, ?_, ?_, ?_⟩
    · rw [hmarkers, hsplit, Text.octets_append, hshows.covers.markers, hrest, hregion,
        List.append_assoc]
    · rw [hhighest, hmet, highestAfter_append]
    · rw [htext, hbare, List.mem_append, Option.mem_toList]
  · rw [h.numbered, hsplit, Text.octets_append, hshows.covers.numbered, hwritten, hrest, hregion,
      hhighest, Text.octets_append]
    simp only [List.append_assoc]

/-- Where no piece is cut out, the bytes that were gone over count as written. -/
theorem written_append {sql : String} {w w' : Walk} {piece rest : List UInt8}
    (hcopied : w.copied ≤ w.offset) (hsplit : (Text.bytes sql).drop w.offset = piece ++ rest)
    (hoffset : w'.offset = w.offset + piece.length) (hsame : w'.copied = w.copied)
    (htext : w'.text = w.text) : w'.written sql = w.written sql ++ piece := by
  have htake : w.offset + piece.length - w.copied = w.offset - w.copied + piece.length := by omega
  have hdrop : w.copied + (w.offset - w.copied) = w.offset := by omega
  rw [written, written, hoffset, hsame, htext, htake, List.take_add, List.drop_drop, hdrop, hsplit,
    List.take_left, List.append_assoc]

theorem settle_of_not_bare {sql : String} {w : Walk} {marker : Option Marker}
    (hbare : marker ≠ some .bare)
    (hwritten : ∀ index, marker = some (.written index) → index < Marker.indexLimit) :
    w.settle sql marker = .ok { w with highest := highestAfter w.highest marker.toList } := by
  cases marker with
  | none => rfl
  | some m =>
    cases m with
    | bare => exact absurd rfl hbare
    | written index =>
      rw [settle, Option.toList_some, highestAfter_cons, Marker.index_written (hwritten index rfl),
        highestAfter_nil]

/-- A marker with an index in range does not lead out of the range. -/
theorem highestAfter_lt_of_not_bare {highest : Nat} (hhighest : highest < Marker.indexLimit)
    {marker : Option Marker} (hbare : marker ≠ some .bare)
    (hwritten : ∀ index, marker = some (.written index) → index < Marker.indexLimit) :
    highestAfter highest marker.toList < Marker.indexLimit := by
  cases marker with
  | none => exact hhighest
  | some m =>
    cases m with
    | bare => exact absurd rfl hbare
    | written index =>
      rw [Option.toList_some, highestAfter_cons, Marker.index_written (hwritten index rfl)]
      exact Nat.max_lt.mpr ⟨hhighest, hwritten index rfl⟩

/-- The turn in terms of what is seen. -/
theorem turn_eq {sql : String} {w : Walk} {b : UInt8} {sight : Sight}
    (hb : (Text.bytes sql)[w.offset]? = some b)
    (hlook : look (Text.bytes sql) w.offset b w.region = .ok sight) :
    w.turn sql = (w.settle sql sight.marker).map fun settled =>
      { settled with region := sight.region, offset := sight.last + 1 } := by
  rw [turn, hb]
  simp only [hlook]
  rfl

/-- A turn on which no bare marker is seen. -/
theorem turn_of_not_bare {sql : String} {w : Walk} (h : w.Invariant sql) {b : UInt8}
    {sight : Sight} {piece rest : List UInt8} (hb : (Text.bytes sql)[w.offset]? = some b)
    (hlook : look (Text.bytes sql) w.offset b w.region = .ok sight)
    (hshows : sight.Shows (Text.bytes sql) w.offset w.region piece rest)
    (hbare : sight.marker ≠ some .bare) : ∃ w', w.turn sql = .ok w' ∧ w'.Invariant sql := by
  have hcopied : w.copied ≤ sight.last + 1 :=
    Nat.le_succ_of_le (Nat.le_trans h.copied_le (le_last_of_look hlook))
  rw [turn_eq hb hlook, settle_of_not_bare hbare hshows.written]
  refine ⟨_, rfl, h.next hshows rfl rfl rfl ?_ hcopied h.boundary h.fresh (by simp [hbare]) ?_⟩
  · exact highestAfter_lt_of_not_bare h.highest_lt hbare hshows.written
  · rw [if_neg hbare, List.append_nil]
    exact congrArg Text.octets (written_append h.copied_le hshows.split hshows.last rfl rfl)

/-- A turn on which a bare marker is seen. -/
theorem turn_of_bare {sql : String} {w : Walk} (h : w.Invariant sql) {b : UInt8}
    {sight : Sight} {piece rest : List UInt8} (hb : (Text.bytes sql)[w.offset]? = some b)
    (hlook : look (Text.bytes sql) w.offset b w.region = .ok sight)
    (hshows : sight.Shows (Text.bytes sql) w.offset w.region piece rest)
    (hbare : sight.marker = some .bare) :
    if w.highest + 1 < Marker.indexLimit then ∃ w', w.turn sql = .ok w' ∧ w'.Invariant sql
    else w.turn sql = .error .indexOverflow := by
  obtain ⟨-, rfl, -⟩ := hshows.bare hbare
  rw [turn_eq hb hlook, hbare, settle]
  have hbyte : b = '?'.toUInt8 := by
    rw [← List.head?_drop, hshows.split] at hb
    exact (Option.some.inj hb).symm
  subst hbyte
  obtain ⟨hstart, hend⟩ := Text.onBoundary_of_ascii hb (by decide)
  split
  · next hlimit =>
    obtain ⟨cut, hcut, hbytes⟩ := Text.cut_spec h.boundary hstart h.copied_le
    have hlast : sight.last + 1 = w.offset + 1 := hshows.last
    rw [hcut]
    refine ⟨_, rfl, h.next hshows rfl rfl ?_ hlimit (Nat.le_of_eq hlast.symm) hend (by simp)
      (by simp [hbare]) ?_⟩
    · rw [hbare]
      exact (Nat.max_eq_right (Nat.le_succ _)).symm
    · have hdigits : Text.octets (Text.bytes (toString (w.highest + 1))) =
          (toString (w.highest + 1)).toList := by
        rw [Text.octets_bytes, ScanMode.spread_toString]
      have hquestion : Text.bytes "?" = ['?'.toUInt8] := rfl
      rw [if_pos hbare, ← hdigits, ← Text.octets_append]
      congr 1
      simp only [written, Option.getD_some, Text.bytes_append, hbytes, hquestion, hlast,
        Nat.sub_self, List.take_zero, List.append_nil]
  · rfl

/-- **A turn.** It leads on, and what was true stays true, or there is no index left for the bare
marker that comes next. -/
theorem Invariant.turn {sql : String} {w : Walk} (h : w.Invariant sql)
    (hoffset : w.offset < (Text.bytes sql).length) :
    (∃ w', w.turn sql = .ok w' ∧ w'.Invariant sql) ∨
      w.turn sql = .error .indexOverflow ∧ w.AtBare sql ∧ w.highest = Marker.indexLimit - 1 := by
  have hdrop := List.drop_eq_getElem_cons hoffset
  have hb := List.getElem?_eq_getElem hoffset
  obtain ⟨sight, piece, rest, hlook, hshows⟩ := look_spec hdrop h.legal
  by_cases hbare : sight.marker = some .bare
  · have hturn := turn_of_bare h hb hlook hshows hbare
    obtain ⟨hregion, rfl, hscan⟩ := hshows.bare hbare
    split at hturn
    · exact .inl hturn
    · next hlimit =>
      refine .inr ⟨hturn, ⟨hregion, ?_, hscan⟩, ?_⟩
      · rw [← List.head?_drop, hshows.split]
        rfl
      · have hlt := h.highest_lt
        omega
  · exact .inl (turn_of_not_bare h hb hlook hshows hbare)

theorem AtBare.look {sql : String} {w : Walk} (h : w.AtBare sql) :
    look (Text.bytes sql) w.offset '?'.toUInt8 w.region = .ok ⟨w.offset, .normal, some .bare⟩ := by
  obtain ⟨hregion, -, hscan⟩ := h
  rw [hregion, Walk.look, lookNormal, if_neg (by decide), if_neg (by decide),
    if_neg fun h => absurd h.1 (by decide), if_neg fun h => absurd h.1 (by decide),
    if_pos (.inl rfl), lookSign, hscan]
  rfl

theorem offset_lt_length_of_turn {sql : String} {w w' : Walk} (h : w.turn sql = .ok w') :
    w.offset < (Text.bytes sql).length := by
  unfold Walk.turn at h
  split at h
  · cases h
  · next b hb => exact (List.getElem?_eq_some_iff.mp hb).1

theorem Reached.invariant {sql : String} {w : Walk} (h : Reached sql w) : w.Invariant sql := by
  induction h with
  | start => exact invariant_start sql
  | @turn w w' hreached hturn ih =>
    obtain ⟨next, hnext, hinvariant⟩ | ⟨herror, -⟩ := ih.turn (offset_lt_length_of_turn hturn)
    · rw [hturn, Except.ok.injEq] at hnext
      exact hnext ▸ hinvariant
    · rw [hturn] at herror
      cases herror

/-- **The walk ends.** It comes to the end of the statement, or to a bare marker for which there is
no index left. -/
theorem run_spec {sql : String} {w : Walk} (h : Reached sql w) :
    (∃ w', w.run sql = .ok w' ∧ Reached sql w' ∧ w'.offset = (Text.bytes sql).length) ∨
      w.run sql = .error .indexOverflow ∧
        ∃ w', Reached sql w' ∧ w'.AtBare sql ∧ w'.highest = Marker.indexLimit - 1 := by
  fun_induction Walk.run sql w with
  | case1 w hoffset next hturn ih => exact ih (h.turn hturn)
  | case2 w hoffset fault hturn =>
    obtain ⟨next, hnext, -⟩ | ⟨herror, hbare, hhighest⟩ := h.invariant.turn hoffset
    · rw [hturn] at hnext
      cases hnext
    · rw [hturn] at herror
      cases herror
      exact .inr ⟨rfl, w, h, hbare, hhighest⟩
  | case3 w hoffset =>
    exact .inl ⟨w, rfl, h, Nat.le_antisymm h.invariant.offset_le (Nat.le_of_not_lt hoffset)⟩

/-- At the end all markers have been met. -/
theorem Invariant.markers_end {sql : String} {w : Walk} (h : w.Invariant sql)
    (hend : w.offset = (Text.bytes sql).length) :
    w.highest = highestAfter 0 (rawMarkers sql) ∧
      (w.text.isSome = true ↔ Marker.bare ∈ rawMarkers sql) := by
  obtain ⟨met, hmarkers, hhighest, hbare⟩ := h.markers
  have hnone : w.region.mode.markers [] = [] := by cases w.region <;> rfl
  rw [hend, List.drop_length, Text.octets_nil, hnone, List.append_nil] at hmarkers
  rw [← highestAfter_markers, ← bare_mem_markers_iff, hmarkers]
  exact ⟨hhighest, hbare⟩

/-- At the end everything has been written. -/
theorem Invariant.written_end {sql : String} {w : Walk} (h : w.Invariant sql)
    (hend : w.offset = (Text.bytes sql).length) :
    Text.bytes (numberedFrom 0 sql) =
      Text.bytes (w.text.getD "") ++ (Text.bytes sql).drop w.copied := by
  have hnumbered := h.numbered
  have hnone : w.region.mode.numbered w.highest [] = [] := by cases w.region <;> rfl
  rw [hend, List.drop_length, Text.octets_nil, hnone, List.append_nil, Text.octets_inj] at hnumbered
  rw [hnumbered, written, hend, List.take_of_length_le (by simp)]

theorem finish_eq {sql : String} {w : Walk} (h : w.Invariant sql)
    (hend : w.offset = (Text.bytes sql).length) :
    w.finish sql = .ok ⟨numberedFrom 0 sql, decide (.bare ∈ rawMarkers sql)⟩ := by
  have hbare := (h.markers_end hend).2
  have hwritten := h.written_end hend
  unfold finish
  cases htext : w.text with
  | none =>
    rw [htext, Option.isSome_none] at hbare
    rw [htext, h.fresh htext] at hwritten
    rw [Text.bytes_inj.mp hwritten, decide_eq_false (by simpa using hbare)]
  | some text =>
    have hle : w.copied ≤ (Text.bytes sql).length := hend ▸ h.copied_le
    obtain ⟨piece, hpiece, hbytes⟩ := Text.cut_spec h.boundary (Text.onBoundary_end sql) hle
    rw [htext, Option.isSome_some] at hbare
    rw [List.take_of_length_le (by simp)] at hbytes
    rw [htext, Option.getD_some, ← hbytes, ← Text.bytes_append, Text.bytes_inj] at hwritten
    rw [← Text.length_bytes, hpiece, hwritten, decide_eq_true (by simpa using hbare)]
    rfl

/-- Where a bare marker comes next, it is a marker of the statement, and the largest index so far is
that of the markers before it. -/
theorem AtBare.markers {sql : String} {w : Walk} (h : w.AtBare sql) (hw : w.Invariant sql) :
    ∃ before after, SqlStatement.markers sql = before ++ .bare :: after ∧
      w.highest = highestAfter 0 before := by
  obtain ⟨met, hmarkers, hhighest, -⟩ := hw.markers
  obtain ⟨hoffset, hb⟩ := List.getElem?_eq_some_iff.mp h.2.1
  have hdrop := List.drop_eq_getElem_cons hoffset
  rw [hb] at hdrop
  obtain ⟨sight, piece, rest, hlook, hshows⟩ := look_spec hdrop hw.legal
  rw [h.look, Except.ok.injEq] at hlook
  subst hlook
  refine ⟨met, ScanMode.plain.markers (Text.octets rest), ?_, hhighest⟩
  rw [hmarkers, hshows.split, Text.octets_append, hshows.covers.markers]
  rfl

end Walk

/-- A bare marker behind the largest index there is has no index. -/
theorem number_eq_error_of_split {sql : String} {before after : List Marker}
    (hmarkers : markers sql = before ++ .bare :: after)
    (hhighest : highestAfter 0 before = Marker.indexLimit - 1) :
    number sql = .error .indexOverflow := by
  have hlimit : ¬highestAfter 0 (rawMarkers sql) < Marker.indexLimit := by
    rw [← highestAfter_markers, hmarkers, highestAfter_append, hhighest, highestAfter_cons]
    have hle := le_highestAfter
      (max (Marker.indexLimit - 1) (Marker.bare.index (Marker.indexLimit - 1))) after
    have hindex : Marker.bare.index (Marker.indexLimit - 1) = Marker.indexLimit := rfl
    omega
  rw [number_eq, if_neg hlimit]

/-- The walk over the bytes numbers as the scanner does. -/
theorem numberBytes_eq (sql : String) :
    numberBytes sql = (number sql).mapError WalkFault.ofNumberingError := by
  have hstart : Walk.Reached sql .start := .start
  obtain ⟨w, hrun, hreached, hend⟩ | ⟨hrun, w, hreached, hbare, hhighest⟩ := Walk.run_spec hstart
  · have hlimit : highestAfter 0 (rawMarkers sql) < Marker.indexLimit :=
      (hreached.invariant.markers_end hend).1 ▸ hreached.invariant.highest_lt
    rw [number_eq, if_pos hlimit, numberBytes, hrun]
    exact Walk.finish_eq hreached.invariant hend
  · obtain ⟨before, after, hmarkers, hmet⟩ := hbare.markers hreached.invariant
    rw [number_eq_error_of_split hmarkers (hmet ▸ hhighest), numberBytes, hrun]
    rfl

example : (numberBytes "é?, 'ü?'").toOption = some ⟨"é?1, 'ü?'", true⟩ := by
  rw [numberBytes_eq]
  decide +kernel

/-- A fault of the walk is an index that is missing. -/
theorem fault_eq_of_numberBytes {sql : String} {fault : WalkFault}
    (h : numberBytes sql = .error fault) : fault = .indexOverflow := by
  rw [numberBytes_eq] at h
  cases hnumber : number sql with
  | ok numbered => rw [hnumber] at h; cases h
  | error e =>
    cases e
    rw [hnumber] at h
    cases h
    rfl

/-- If no index is left, the walk comes to a bare marker behind the largest index there is. -/
theorem exists_atBare_of_numberBytes {sql : String}
    (h : numberBytes sql = .error .indexOverflow) :
    ∃ w, Walk.Reached sql w ∧ w.AtBare sql ∧ w.highest = Marker.indexLimit - 1 := by
  have hstart : Walk.Reached sql .start := .start
  obtain ⟨w, hrun, hreached, hend⟩ | ⟨-, hw⟩ := Walk.run_spec hstart
  · rw [numberBytes, hrun] at h
    change w.finish sql = _ at h
    rw [Walk.finish_eq hreached.invariant hend] at h
    cases h
  · exact hw

theorem numberBytes_eq_error_iff (sql : String) :
    numberBytes sql = .error .indexOverflow ↔ ∃ before after,
      markers sql = before ++ .bare :: after ∧
        highestAfter 0 before = Marker.indexLimit - 1 := by
  constructor
  · intro h
    obtain ⟨w, hreached, hbare, hhighest⟩ := exists_atBare_of_numberBytes h
    obtain ⟨before, after, hmarkers, hmet⟩ := hbare.markers hreached.invariant
    exact ⟨before, after, hmarkers, hmet ▸ hhighest⟩
  · rintro ⟨before, after, hmarkers, hhighest⟩
    rw [numberBytes_eq, number_eq_error_of_split hmarkers hhighest]
    rfl

theorem numberBytes_eq_error_iff_reached (sql : String) :
    numberBytes sql = .error .indexOverflow ↔
      ∃ w, Walk.Reached sql w ∧ w.AtBare sql ∧ w.highest = Marker.indexLimit - 1 := by
  constructor
  · exact exists_atBare_of_numberBytes
  · rintro ⟨w, hreached, hbare, hhighest⟩
    obtain ⟨before, after, hmarkers, hmet⟩ := hbare.markers hreached.invariant
    exact (numberBytes_eq_error_iff sql).mpr ⟨before, after, hmarkers, hmet ▸ hhighest⟩

/-! ## How large the indices get -/

def Marker.writtenIndex? : Marker → Option Nat
  | .written index => some index
  | .bare => none

/-- The indices in use grow by one with every bare marker. -/
theorem highestAfter_le (highest : Nat) (ms : List Marker) :
    highestAfter highest ms ≤
      max highest (largest (ms.filterMap Marker.writtenIndex?)) + ms.count .bare := by
  induction ms generalizing highest with
  | nil => exact Nat.le_add_right_of_le (Nat.le_max_left _ _)
  | cons m ms ih =>
    have hrest := ih (max highest (m.index highest))
    cases m with
    | bare =>
      have hcount : (Marker.bare :: ms).count .bare = ms.count .bare + 1 := List.count_cons_self
      have hwritten : (Marker.bare :: ms).filterMap Marker.writtenIndex? =
        ms.filterMap Marker.writtenIndex? := rfl
      rw [highestAfter_cons, hcount, hwritten]
      rw [Marker.index] at hrest ⊢
      omega
    | written index =>
      have hcount : (Marker.written index :: ms).count .bare = ms.count .bare :=
        List.count_cons_of_ne (by simp)
      have hwritten : largest ((Marker.written index :: ms).filterMap Marker.writtenIndex?) =
        max index (largest (ms.filterMap Marker.writtenIndex?)) := rfl
      have hindex : (Marker.written index).index highest ≤ index := by
        rw [Marker.index]
        split <;> omega
      rw [highestAfter_cons, hcount, hwritten]
      omega

/-- If the largest written index and the bare markers stay below the limit, all indices do. -/
theorem number_eq_ok_of_le {sql : String}
    (h : largest ((markers sql).filterMap Marker.writtenIndex?) + (markers sql).count .bare ≤
      Marker.indexLimit - 1) : ∃ numbered, number sql = .ok numbered := by
  have hle := highestAfter_le 0 (markers sql)
  have hpos : 0 < Marker.indexLimit := by decide
  have hlimit : highestAfter 0 (rawMarkers sql) < Marker.indexLimit := by
    rw [← highestAfter_markers]
    omega
  exact ⟨_, by rw [number_eq, if_pos hlimit]⟩

theorem scanIndex_spec (bytes : List UInt8) (start : Nat) :
    scanIndex bytes start = .ok none ∨ ∃ stop index,
      scanIndex bytes start = .ok (some (stop, index)) ∧ start < stop ∧ stop ≤ bytes.length := by
  rw [scanIndex_eq]
  dsimp only
  split
  · exact .inl rfl
  · next hne =>
    have hpos := List.length_pos_iff.mpr hne
    have hle := (List.takeWhile_prefix (l := bytes.drop start) Text.isDigitByte).length_le
    rw [List.length_drop] at hle
    exact .inr ⟨_, _, rfl, by omega, by omega⟩

/-- **Only a missing index stops the walk.** The walk over the bytes numbers a statement as the
scanner does, and the only thing that can go wrong is that no index is left.
* This is so exactly if a bare marker comes next while the largest index so far is the last one, and
  never if the largest written index and the number of bare markers come to no more than that.
* The digits of an index are never sought outside the statement.
* At every turn of the walk the offset grows, nothing is written behind it, and the pieces that are
  cut out lie in the statement and between two characters. -/
theorem numberBytes_stops_only_without_index (sql : String) :
    numberBytes sql = (number sql).mapError WalkFault.ofNumberingError ∧
    (∀ fault, numberBytes sql = .error fault → fault = .indexOverflow) ∧
    (numberBytes sql = .error .indexOverflow ↔
      ∃ w, Walk.Reached sql w ∧ w.AtBare sql ∧ w.highest = Marker.indexLimit - 1) ∧
    (numberBytes sql = .error .indexOverflow ↔
      ∃ before after, markers sql = before ++ .bare :: after ∧
        highestAfter 0 before = Marker.indexLimit - 1) ∧
    (largest ((markers sql).filterMap Marker.writtenIndex?) + (markers sql).count .bare ≤
      Marker.indexLimit - 1 → ∃ numbered, numberBytes sql = .ok numbered) ∧
    (∀ start, scanIndex (Text.bytes sql) start = .ok none ∨ ∃ stop index,
      scanIndex (Text.bytes sql) start = .ok (some (stop, index)) ∧
        start < stop ∧ stop ≤ (Text.bytes sql).length) ∧
    ∀ w, Walk.Reached sql w →
      (w.copied ≤ w.offset ∧ w.offset ≤ (Text.bytes sql).length) ∧
      (w.offset < (Text.bytes sql).length →
        (∀ fault, w.turn sql = .error fault → fault = .indexOverflow) ∧
        ∀ w', w.turn sql = .ok w' → w.offset < w'.offset) ∧
      Text.OnBoundary sql w.copied ∧
      (w.AtBare sql → Text.OnBoundary sql w.offset ∧
        ∃ before after, markers sql = before ++ .bare :: after ∧
          w.highest = highestAfter 0 before) := by
  refine ⟨numberBytes_eq sql, fun _ => fault_eq_of_numberBytes,
    numberBytes_eq_error_iff_reached sql, numberBytes_eq_error_iff sql, fun hle => ?_,
    scanIndex_spec _, fun w hreached => ?_⟩
  · obtain ⟨numbered, hnumbered⟩ := number_eq_ok_of_le hle
    exact ⟨numbered, by rw [numberBytes_eq, hnumbered]; rfl⟩
  · have hw := hreached.invariant
    refine ⟨⟨hw.copied_le, hw.offset_le⟩, fun hoffset => ⟨fun fault hfault => ?_, fun w' =>
      Walk.offset_lt_of_turn⟩, hw.boundary, fun hbare => ⟨?_, hbare.markers hw⟩⟩
    · obtain ⟨next, hnext, -⟩ | ⟨herror, -⟩ := hw.turn hoffset
      · rw [hfault] at hnext
        cases hnext
      · rw [hfault] at herror
        exact Except.error.inj herror
    · exact (Text.onBoundary_of_ascii hbare.2.1 (by decide)).1

end SqlStatement
