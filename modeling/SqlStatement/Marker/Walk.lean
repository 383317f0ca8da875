import Mathlib.Tactic.SplitIfs
import SqlStatement.Marker.Number
import SqlStatement.Text.Bytes

/-!
# Numbering over the bytes of a statement

A statement is held as UTF-8, and `numberBytes` numbers it by walking over its bytes. At each turn
the walk looks at the byte at its offset, and at the one behind it where a run may open or close
(`Walk.look`). The text between two bare markers is not written byte by byte: it is cut out of the
statement when the second of them is met (`Walk.settle`), from the offset `copied` on.

A piece that is cut out has to lie in the statement and to start and end between two characters
(`cut`), and a byte has to be there to be looked at. What goes against this is a `WalkFault`, as is
an index past the largest there is.
-/

namespace SqlStatement

/-- What can go wrong on a walk over the bytes of a statement. -/
inductive WalkFault where
  /-- A bare marker follows the largest index there is. -/
  | indexOverflow
  /-- An offset behind the end, or a piece that ends before it starts. -/
  | outOfBounds
  /-- A piece that starts or ends inside a character. -/
  | insideCharacter
  deriving DecidableEq, Repr

/-- A bare marker without an index is a fault of the walk. -/
def WalkFault.ofNumberingError : NumberingError → WalkFault
  | .indexOverflow => .indexOverflow

namespace Text

/-- The offset lies between two characters, or at an end of the text. -/
def OnBoundary (text : String) (offset : Nat) : Prop :=
  String.Pos.Raw.IsValid text ⟨offset⟩

instance (text : String) (offset : Nat) : Decidable (OnBoundary text offset) :=
  inferInstanceAs (Decidable (String.Pos.Raw.IsValid text ⟨offset⟩))

def cut (text : String) (first last : Nat) : Except WalkFault String :=
  if first ≤ last ∧ last ≤ text.utf8ByteSize then
    if h : OnBoundary text first ∧ OnBoundary text last then
      .ok (String.extract (text.pos ⟨first⟩ h.1) (text.pos ⟨last⟩ h.2))
    else .error .insideCharacter
  else .error .outOfBounds

def cutBytes (bytes : List UInt8) (first last : Nat) : Except WalkFault (List UInt8) :=
  if first ≤ last ∧ last ≤ bytes.length then .ok ((bytes.drop first).take (last - first))
  else .error .outOfBounds

def isDigitByte (b : UInt8) : Bool := '0'.toUInt8 ≤ b && b ≤ '9'.toUInt8

def digitsValue (digits : List UInt8) : Nat :=
  digits.foldl (fun value b => 10 * value + (b.toNat - '0'.toUInt8.toNat)) 0

end Text

/-- The digits at an offset: the offset behind them and the index that they write, which counts as 0
if it is out of range. -/
def scanIndex (bytes : List UInt8) (start : Nat) : Except WalkFault (Option (Nat × Nat)) :=
  let count := ((bytes.drop start).takeWhile Text.isDigitByte).length
  if count = 0 then .ok none
  else do
    let stop := start + count
    let value := Text.digitsValue (← Text.cutBytes bytes start stop)
    return some (stop, if value < Marker.indexLimit then value else 0)

/-- The digits lie in the statement. -/
theorem scanIndex_eq (bytes : List UInt8) (start : Nat) :
    scanIndex bytes start =
      let digits := (bytes.drop start).takeWhile Text.isDigitByte
      if digits = [] then .ok none
      else .ok (some (start + digits.length,
        if Text.digitsValue digits < Marker.indexLimit then Text.digitsValue digits else 0)) := by
  have hprefix := List.takeWhile_prefix (l := bytes.drop start) Text.isDigitByte
  simp only [scanIndex, List.length_eq_zero_iff]
  generalize (bytes.drop start).takeWhile Text.isDigitByte = digits at hprefix ⊢
  split
  · rfl
  · next hne =>
    have hpos := List.length_pos_iff.mpr hne
    have hlength := hprefix.length_le
    rw [List.length_drop] at hlength
    have hcut : Text.cutBytes bytes start (start + digits.length) = .ok digits := by
      rw [Text.cutBytes, if_pos (by omega), Nat.add_sub_cancel_left,
        ← List.prefix_iff_eq_take.mp hprefix]
    rw [hcut]
    rfl

inductive Region where
  /-- Outside quotes and comments. -/
  | normal
  /-- A run that this byte closes. -/
  | quoted (close : UInt8)
  | lineComment
  | blockComment
  deriving DecidableEq, Repr

structure Walk where
  /-- The offset of the byte to look at. -/
  offset : Nat
  /-- The offset behind the last piece that was written. -/
  copied : Nat
  /-- The largest index so far. -/
  highest : Nat
  region : Region
  /-- The text written so far, once there is a bare marker. -/
  text : Option String
  deriving DecidableEq, Repr

/-- What the walk sees at its offset: up to which offset one thing goes, the region behind it, and
the marker that it is. -/
structure Sight where
  last : Nat
  region : Region
  marker : Option Marker
  deriving DecidableEq, Repr

namespace Walk

def start : Walk := ⟨0, 0, 0, .normal, none⟩

/-- What is seen where the sign of a marker comes next. Only a `?` is a marker without an index. -/
def lookSign (bytes : List UInt8) (offset : Nat) (b : UInt8) : Except WalkFault Sight := do
  match ← scanIndex bytes (offset + 1) with
  | some (stop, index) => return ⟨stop - 1, .normal, some (.written index)⟩
  | none => return ⟨offset, .normal, if b = '?'.toUInt8 then some .bare else none⟩

/-- What is seen outside quotes and comments, where `b` comes next. -/
def lookNormal (bytes : List UInt8) (offset : Nat) (b : UInt8) : Except WalkFault Sight :=
  let next := bytes[offset + 1]?
  if b = '\''.toUInt8 ∨ b = '"'.toUInt8 ∨ b = '\x60'.toUInt8 then
    .ok ⟨offset, .quoted b, none⟩
  else if b = '['.toUInt8 then .ok ⟨offset, .quoted ']'.toUInt8, none⟩
  else if b = '-'.toUInt8 ∧ next = some '-'.toUInt8 then .ok ⟨offset + 1, .lineComment, none⟩
  else if b = '/'.toUInt8 ∧ next = some '*'.toUInt8 then .ok ⟨offset + 1, .blockComment, none⟩
  else if b = '?'.toUInt8 ∨ b = '$'.toUInt8 then lookSign bytes offset b
  else .ok ⟨offset, .normal, none⟩

/-- What is seen in each region, where `b` comes next. -/
def look (bytes : List UInt8) (offset : Nat) (b : UInt8) : Region → Except WalkFault Sight
  | .normal => lookNormal bytes offset b
  | .quoted close =>
    if b = close then
      -- A doubled quote stays inside.
      if close ≠ ']'.toUInt8 ∧ bytes[offset + 1]? = some close then
        .ok ⟨offset + 1, .quoted close, none⟩
      else .ok ⟨offset, .normal, none⟩
    else .ok ⟨offset, .quoted close, none⟩
  | .lineComment => .ok ⟨offset, if b = '\n'.toUInt8 then .normal else .lineComment, none⟩
  | .blockComment =>
    if b = '*'.toUInt8 ∧ bytes[offset + 1]? = some '/'.toUInt8 then
      .ok ⟨offset + 1, .normal, none⟩
    else .ok ⟨offset, .blockComment, none⟩

/-- Takes account of a marker; a bare one is written with its index, behind the text that was not
written yet. -/
def settle (sql : String) (w : Walk) : Option Marker → Except WalkFault Walk
  | none => .ok w
  | some (.written index) => .ok { w with highest := max w.highest index }
  | some .bare => do
    let highest := w.highest + 1
    if highest < Marker.indexLimit then
      let piece ← Text.cut sql w.copied w.offset
      return { w with
        highest
        text := some (w.text.getD "" ++ piece ++ "?" ++ toString highest)
        copied := w.offset + 1 }
    else throw .indexOverflow

def turn (sql : String) (w : Walk) : Except WalkFault Walk :=
  match (Text.bytes sql)[w.offset]? with
  | none => .error .outOfBounds
  | some b => do
    let sight ← look (Text.bytes sql) w.offset b w.region
    let settled ← w.settle sql sight.marker
    return { settled with region := sight.region, offset := sight.last + 1 }

theorem lookSign_eq (bytes : List UInt8) (offset : Nat) (b : UInt8) :
    lookSign bytes offset b =
      let digits := (bytes.drop (offset + 1)).takeWhile Text.isDigitByte
      if digits = [] then .ok ⟨offset, .normal, if b = '?'.toUInt8 then some .bare else none⟩
      else .ok
        ⟨offset + digits.length, .normal, some (Marker.ofIndex (Text.digitsValue digits))⟩ := by
  simp only [lookSign, scanIndex_eq]
  generalize (bytes.drop (offset + 1)).takeWhile Text.isDigitByte = digits
  split
  · rfl
  · have hstop : offset + 1 + digits.length - 1 = offset + digits.length := by omega
    simp only [← hstop]
    rfl

/-- What is seen does not lie behind. -/
theorem le_last_of_look {bytes : List UInt8} {offset : Nat} {b : UInt8} {region : Region}
    {sight : Sight} (h : look bytes offset b region = .ok sight) : offset ≤ sight.last := by
  cases region with
  | normal =>
    rw [look, lookNormal, lookSign_eq] at h
    dsimp only at h
    split_ifs at h <;> cases h <;> simp
  | quoted close =>
    rw [look] at h
    split_ifs at h <;> cases h <;> simp
  | lineComment => cases h; exact Nat.le_refl offset
  | blockComment =>
    rw [look] at h
    split_ifs at h <;> cases h <;> simp

/-- Every turn moves on. -/
theorem offset_lt_of_turn {sql : String} {w w' : Walk} (h : w.turn sql = .ok w') :
    w.offset < w'.offset := by
  unfold turn at h
  split at h
  · cases h
  · next b hb =>
    cases hlook : look (Text.bytes sql) w.offset b w.region with
    | error fault => rw [hlook] at h; cases h
    | ok sight =>
      have hlast := le_last_of_look hlook
      rw [hlook] at h
      change (w.settle sql sight.marker >>= fun settled => _) = _ at h
      cases hsettle : w.settle sql sight.marker with
      | error fault => rw [hsettle] at h; cases h
      | ok settled => rw [hsettle] at h; cases h; exact Nat.lt_succ_of_le hlast

def run (sql : String) (w : Walk) : Except WalkFault Walk :=
  if w.offset < (Text.bytes sql).length then
    match _ : w.turn sql with
    | .ok next => run sql next
    | .error fault => .error fault
  else .ok w
termination_by (Text.bytes sql).length - w.offset
decreasing_by
  have hlt := offset_lt_of_turn ‹w.turn sql = .ok next›
  omega

/-- The statement as it is if there was no bare marker, or else what was written and the rest. -/
def finish (sql : String) (w : Walk) : Except WalkFault Numbered :=
  match w.text with
  | none => .ok ⟨sql, false⟩
  | some text => do
    let piece ← Text.cut sql w.copied sql.utf8ByteSize
    return ⟨text ++ piece, true⟩

end Walk

/-- Gives every bare marker its index, by a walk over the bytes. -/
def numberBytes (sql : String) : Except WalkFault Numbered := do
  let w ← Walk.start.run sql
  w.finish sql

end SqlStatement
