/-!
# Where the markers of a statement stand

A statement refers to its parameters by markers: `?` or `$` with an index (`?3`, `$3`), or a bare
`?`. Inside a quoted run or a comment nothing is a marker. The scanner reads a statement character
by character; between two characters it stands in a `ScanMode`, and `ScanMode.next` is its step.
A marker is known when the scanner sees what follows it (`ScanMode.ends`), so no character is ever
read twice.

* A quoted run opens with `'`, `"`, a backquote or `[` and ends with the first closing character;
  a doubled quote ends one run and opens the next, so it stays inside.
* A line comment goes from `--` to the end of the line, a block comment from `/*` to the first
  `*/` after it.

`markers` lists the markers of a statement, and a text is `Closed` if the scanner stands outside
quotes and comments at its end.
-/

namespace SqlStatement

/-- Where the scanner stands between two characters. -/
inductive ScanMode where
  /-- Outside quotes and comments, with nothing under way. -/
  | plain
  /-- After a `-` that may open a line comment. -/
  | dash
  /-- After a `/` that may open a block comment. -/
  | slash
  /-- After a `?`. -/
  | question
  /-- After a `$`. -/
  | dollar
  /-- After the sign of a marker and digits with this value. -/
  | index (value : Nat)
  /-- In a run that this character closes. -/
  | quoted (close : Char)
  | lineComment
  | blockComment
  /-- In a block comment, after a `*`. -/
  | star
  deriving DecidableEq, Repr

inductive Marker where
  | written (index : Nat)
  | bare
  deriving DecidableEq, Repr

namespace Marker

/-- Indices have 64 bits: they are below this. -/
def indexLimit : Nat := 0x10000000000000000

/-- The marker with a written index; an index out of range counts as 0. -/
def ofIndex (value : Nat) : Marker := .written (if value < indexLimit then value else 0)

end Marker

def digitValue (c : Char) : Nat := c.toNat - '0'.toNat

namespace ScanMode

/-- The mode that a character leads to from outside quotes and comments. -/
def start (c : Char) : ScanMode :=
  if c = '\'' ∨ c = '"' ∨ c = '\x60' then .quoted c
  else if c = '[' then .quoted ']'
  else if c = '-' then .dash
  else if c = '/' then .slash
  else if c = '?' then .question
  else if c = '$' then .dollar
  else .plain

def next : ScanMode → Char → ScanMode
  | .plain, c => start c
  | .dash, c => if c = '-' then .lineComment else start c
  | .slash, c => if c = '*' then .blockComment else start c
  | .question, c => if c.isDigit then .index (digitValue c) else start c
  | .dollar, c => if c.isDigit then .index (digitValue c) else start c
  | .index value, c => if c.isDigit then .index (10 * value + digitValue c) else start c
  | .quoted close, c => if c = close then .plain else .quoted close
  | .lineComment, c => if c = '\n' then .plain else .lineComment
  | .blockComment, c => if c = '*' then .star else .blockComment
  | .star, c => if c = '/' then .plain else if c = '*' then .star else .blockComment

/-- The marker that ends where this character, or the end of the text, follows. -/
def ends (mode : ScanMode) (following : Option Char) : Option Marker :=
  if following.any Char.isDigit then none
  else
    match mode with
    | .question => some .bare
    | .index value => some (Marker.ofIndex value)
    | _ => none

def isOutside : ScanMode → Bool
  | .plain | .dash | .slash | .question | .dollar | .index _ => true
  | .quoted _ | .lineComment | .blockComment | .star => false

def after (mode : ScanMode) (text : List Char) : ScanMode := text.foldl next mode

theorem after_append (mode : ScanMode) (s t : List Char) :
    mode.after (s ++ t) = (mode.after s).after t := by
  simp [after]

/-- The markers that end in a text, the end of the text included. -/
def markers (mode : ScanMode) : List Char → List Marker
  | [] => (mode.ends none).toList
  | c :: rest => (mode.ends (some c)).toList ++ (mode.next c).markers rest

end ScanMode

/-- The markers of a statement, from left to right. -/
def markers (sql : String) : List Marker := ScanMode.plain.markers sql.toList

/-- The text ends outside quotes and comments. -/
def Closed (text : String) : Prop := (ScanMode.plain.after text.toList).isOutside = true

instance (text : String) : Decidable (Closed text) := inferInstanceAs (Decidable (_ = _))

end SqlStatement
