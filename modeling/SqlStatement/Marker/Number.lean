import SqlStatement.Marker.Scan

/-!
# Numbering the bare markers

The engine gives a bare `?` the index one past the largest index so far, written or assigned. A
driver that counts the bare markers on their own would bind other parameters, so `number` writes
the index after every bare marker before the statement is handed over. Nothing else of the text
changes. There is no index past `Marker.indexLimit`, and a bare marker that would need one is an
error.
-/

namespace SqlStatement

/-- Why the markers of a statement have no numbering. -/
inductive NumberingError where
  /-- A bare marker follows the largest index there is. -/
  | indexOverflow
  deriving DecidableEq, Repr

def NumberingError.message : NumberingError → String
  | .indexOverflow => "attempt to add with overflow"

/-- A statement whose bare markers have been numbered, and whether it had any. -/
structure Numbered where
  text : String
  changed : Bool
  deriving DecidableEq, Repr

/-- The scanner's mode, the largest index so far, and the text written so far. -/
structure Numbering where
  mode : ScanMode
  highest : Nat
  text : String
  changed : Bool
  deriving DecidableEq, Repr

namespace Numbering

/-- Nothing read, with indices up to `highest` in use. -/
def startingFrom (highest : Nat) : Numbering := ⟨.plain, highest, "", false⟩

/-- Takes account of the marker that ends where this character, or the end of the text, follows. -/
def settle (n : Numbering) (following : Option Char) : Numbering :=
  match n.mode.ends following with
  | none => n
  | some (.written index) => { n with highest := max n.highest index }
  | some .bare =>
    { n with
      highest := n.highest + 1
      text := n.text ++ toString (n.highest + 1)
      changed := true }

def step (n : Numbering) (c : Char) : Numbering :=
  let settled := n.settle (some c)
  { settled with mode := n.mode.next c, text := settled.text.push c }

def run (n : Numbering) (text : List Char) : Numbering := (text.foldl step n).settle none

end Numbering

/-- Gives every bare marker its index. -/
def number (sql : String) : Except NumberingError Numbered :=
  let result := (Numbering.startingFrom 0).run sql.toList
  if result.highest < Marker.indexLimit then .ok ⟨result.text, result.changed⟩
  else .error .indexOverflow

end SqlStatement
