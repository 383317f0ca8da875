import SqlStatement.Engine.Token
import SqlStatement.Proofs.Marker.Boundary
import SqlStatement.Proofs.Marker.Lexeme
import SqlStatement.Query.Clause

/-!
# The tokens of a list of markers

The text of a selection of indexed markers is read as the keyword, the variables and the commas
between them (`read_selection`). What ends the digits of an index is the character behind it, so
reading a marker depends on how the rest of the text starts (`readAll_marker`).
-/

namespace SqlStatement

namespace Token

/-! ## One step -/

/-- A character that starts neither a gap nor a blob. -/
def startsKind (c : Char) : Bool :=
  !continuesBlank c && c != byteOrderMark && c != '-' && c != '/' && c != 'x' && c != 'X'

theorem gapAt_of_startsKind {c : Char} (h : startsKind c = true) (rest : List Char) :
    gapAt c rest = none := by
  simp only [startsKind, continuesBlank, Bool.and_eq_true, bne_iff_ne, Bool.not_eq_true',
    Bool.or_eq_false_iff] at h
  obtain ⟨⟨⟨⟨⟨⟨hblank, -⟩, hmark⟩, hdash⟩, hslash⟩, -⟩, -⟩ := h
  cases rest with
  | nil => simp [gapAt, commentAt, hblank, hmark]
  | cons d more => simp [gapAt, commentAt, hblank, hmark, hdash, hslash]

theorem blobAt_of_startsKind {c : Char} (h : startsKind c = true) (rest : List Char) :
    blobAt c rest = none := by
  simp only [startsKind, Bool.and_eq_true, bne_iff_ne] at h
  unfold blobAt
  split
  · rw [if_neg (by simp [h.1.2, h.2])]
  · rfl

/-- Any other character starts a token that goes up to where its kind ends. -/
theorem readAll_kind {c : Char} (h : startsKind c = true) (rest : List Char) :
    readAll (c :: rest) =
      ([], ⟨(kindAt c rest).value, c :: upTo rest (kindAt c rest).rest,
        (readAll (kindAt c rest).rest).1⟩ :: (readAll (kindAt c rest).rest).2) := by
  rw [readAll]
  simp only [gapAt_of_startsKind h, blobAt_of_startsKind h, Option.getD_none]

/-- There is no gap at the front of the text. -/
def StartsToken (text : List Char) : Prop := ∀ c ∈ text.head?, startsKind c = true

theorem StartsToken.gap_eq_nil {text : List Char} (h : StartsToken text) :
    (readAll text).1 = [] := by
  cases text with
  | nil => rw [readAll]
  | cons c rest => rw [readAll_kind (h c rfl)]

theorem readAll_blank {rest : List Char} (h : StartsToken rest) :
    readAll (' ' :: rest) = ([' '], (readAll rest).2) := by
  have hrest : rest.dropWhile continuesBlank = rest := by
    cases rest with
    | nil => rfl
    | cons c more =>
      have hc : startsKind c = true := h c rfl
      simp only [startsKind, Bool.and_eq_true, Bool.not_eq_true'] at hc
      simp [hc]
  have hgap : gapAt ' ' rest = some ((span continuesBlank rest).map fun _ => ()) := rfl
  rw [readAll]
  simp only [hgap, Front.map, span, hrest, h.gap_eq_nil]
  simp [upTo]

theorem upTo_append (s t : List Char) : upTo (s ++ t) t = s := by
  simp [upTo]

/-! ## Markers -/

/-- No digits of an index go on in this text. -/
def EndsIndex (rest : List Char) : Prop := ∀ c ∈ rest.head?, c.isDigit = false

theorem span_digits {digits rest : List Char} (hdigits : ∀ d ∈ digits, d.isDigit = true)
    (hrest : EndsIndex rest) :
    (span Char.isDigit (digits ++ rest)).value = digits ∧
      (span Char.isDigit (digits ++ rest)).rest = rest := by
  have hstop : startsWithDigit rest = false := by
    cases rest with
    | nil => rfl
    | cons c rest => exact hrest c rfl
  exact span_digits_append hdigits hstop

theorem decimalValue_toDigits (n : Nat) : decimalValue (Nat.toDigits 10 n) = n :=
  Nat.ofDigitChars_ten_toDigits

def marker (index : Nat) : Token := ⟨.parameter (.indexed index), (Clause.marker index).toList, []⟩

def comma : Token := ⟨.symbol ",", [','], [' ']⟩

def select : Token := ⟨.word "SELECT", "SELECT".toList, [' ']⟩

theorem toList_marker (index : Nat) :
    (Clause.marker index).toList = '?' :: Nat.toDigits 10 index := by
  simp [Clause.marker]

theorem readAll_marker (index : Nat) {rest : List Char} (hindex : EndsIndex rest)
    (hstart : StartsToken rest) :
    readAll ((Clause.marker index).toList ++ rest) = ([], marker index :: (readAll rest).2) := by
  have hdigits : ∀ d ∈ Nat.toDigits 10 index, d.isDigit = true := fun _ => isDigit_of_mem_toDigits
  obtain ⟨hvalue, hrest⟩ := span_digits hdigits hindex
  have hkind : kindAt '?' (Nat.toDigits 10 index ++ rest) =
      (span Char.isDigit (Nat.toDigits 10 index ++ rest)).map fun digits =>
        .parameter (if digits.isEmpty then .bare else .indexed (decimalValue digits)) := rfl
  have hnonempty : (Nat.toDigits 10 index).isEmpty = false := by simp [Nat.toDigits_ne_nil]
  rw [toList_marker, List.cons_append, readAll_kind (by decide), hkind]
  simp only [Front.map, hvalue, hrest, hnonempty, decimalValue_toDigits, upTo_append,
    hstart.gap_eq_nil, marker, toList_marker]
  rfl

/-! ## The whole text -/

theorem readAll_comma {rest : List Char} (h : StartsToken rest) :
    readAll (", ".toList ++ rest) = ([], comma :: (readAll rest).2) := by
  have hkind : (kindAt ',' (' ' :: rest)).value = .symbol "," ∧
      (kindAt ',' (' ' :: rest)).rest = ' ' :: rest := ⟨rfl, rfl⟩
  show readAll (',' :: ([] ++ ' ' :: rest)) = _
  rw [readAll_kind (by decide), List.nil_append, hkind.1, hkind.2, readAll_blank h]
  simp [comma, upTo]

theorem readAll_select {rest : List Char} (h : StartsToken rest) :
    readAll ("SELECT ".toList ++ rest) = ([], select :: (readAll rest).2) := by
  have hkind : (kindAt 'S' ("ELECT".toList ++ ' ' :: rest)).value = .word "SELECT" ∧
      (kindAt 'S' ("ELECT".toList ++ ' ' :: rest)).rest = ' ' :: rest := ⟨rfl, rfl⟩
  show readAll ('S' :: ("ELECT".toList ++ ' ' :: rest)) = _
  rw [readAll_kind (by decide), hkind.1, hkind.2, upTo_append, readAll_blank h]
  rfl

/-- The text of further markers, each behind a comma. -/
def furtherText (indices : List Nat) : List Char :=
  indices.flatMap fun index => ", ".toList ++ (Clause.marker index).toList

def further (indices : List Nat) : List Token := indices.flatMap fun index => [comma, marker index]

theorem furtherText_cons (index : Nat) (indices : List Nat) :
    furtherText (index :: indices) =
      ", ".toList ++ ((Clause.marker index).toList ++ furtherText indices) := by
  simp [furtherText]

theorem startsToken_marker (index : Nat) (rest : List Char) :
    StartsToken ((Clause.marker index).toList ++ rest) := by
  intro c hc
  rw [toList_marker] at hc
  obtain rfl : '?' = c := by simpa using hc
  decide

/-- The text of further markers is empty or starts with a comma. -/
theorem furtherText_follows (indices : List Nat) :
    EndsIndex (furtherText indices) ∧ StartsToken (furtherText indices) := by
  cases indices with
  | nil => exact ⟨by simp [EndsIndex, furtherText], by simp [StartsToken, furtherText]⟩
  | cons index indices =>
    have hcomma : ∀ c ∈ (furtherText (index :: indices)).head?, c = ',' := by
      intro c hc
      rw [furtherText_cons] at hc
      simpa using hc.symm
    exact ⟨fun c hc => hcomma c hc ▸ rfl, fun c hc => hcomma c hc ▸ rfl⟩

theorem readAll_further (indices : List Nat) :
    readAll (furtherText indices) = ([], further indices) := by
  induction indices with
  | nil => rw [furtherText, List.flatMap_nil, readAll, further, List.flatMap_nil]
  | cons index indices ih =>
    obtain ⟨hindex, hstart⟩ := furtherText_follows indices
    rw [furtherText_cons, readAll_comma (startsToken_marker index _),
      readAll_marker index hindex hstart, ih]
    rfl

theorem toList_select_markers (index : Nat) (indices : List Nat) :
    (Clause.select ((index :: indices).map Clause.marker)).text.toList =
      "SELECT ".toList ++ ((Clause.marker index).toList ++ furtherText indices) := by
  have hmarkers : (Clause.commaSeparated ((index :: indices).map Clause.marker)).toList =
      (Clause.marker index).toList ++ furtherText indices := by
    induction indices generalizing index with
    | nil => simp [Clause.commaSeparated, furtherText]
    | cons next indices ih =>
      have hnext := ih next
      rw [Clause.commaSeparated] at hnext ⊢
      rw [List.map_cons, String.intercalate_cons_of_ne_nil (by simp), String.toList_append,
        hnext, furtherText_cons, String.toList_append, List.append_assoc]
  show ("SELECT " ++ Clause.commaSeparated _).toList = _
  rw [String.toList_append, hmarkers]

/-- A selection of markers is read as the keyword, the variables and the commas between them. -/
theorem read_selection (index : Nat) (indices : List Nat) :
    read (Clause.select ((index :: indices).map Clause.marker)).text =
      select :: marker index :: further indices := by
  obtain ⟨hindex, hstart⟩ := furtherText_follows indices
  rw [read, toList_select_markers, readAll_select (startsToken_marker index _),
    readAll_marker index hindex hstart, readAll_further]

end Token

end SqlStatement
