import SqlStatement.Engine.Numeral
import SqlStatement.Marker.Identifier
import SqlStatement.Text.Hex

/-!
# Tokens of a statement

The engine reads a statement as words, names in quotes, literals, variables and symbols, with blanks
and comments between them. `Token.read` splits a text; what is no token becomes an illegal one,
which no statement has a place for.

Each reader of a token returns what is left of the text together with the fact that nothing was
added to it, which is what ends the splitting.
-/

namespace SqlStatement

/-- A reference to a parameter, as the engine sees it. -/
inductive Variable where
  | bare
  /-- `?` with an index. -/
  | indexed (index : Nat)
  /-- A name with its sign. -/
  | named (name : String)
  deriving DecidableEq

inductive Token.Kind where
  /-- A keyword or a name. -/
  | word (text : String)
  /-- A name after an opening quote, backquote or bracket. -/
  | name (quote : Char) (text : String)
  | text (content : String)
  | blob (bytes : List UInt8)
  | integer (value : Nat)
  | hexadecimal (digits : List Char)
  /-- A number with a point or an exponent. -/
  | real (numeral : Numeral)
  | parameter (which : Variable)
  | symbol (text : String)
  | illegal
  deriving DecidableEq

/-- A token, as it is written, and what stands between it and the next one. -/
structure Token where
  kind : Token.Kind
  written : List Char
  gap : List Char
  deriving DecidableEq

namespace Token

/-! ## Classes of characters -/

/-- A blank that may stand anywhere between tokens. -/
def startsBlank (c : Char) : Bool :=
  c = ' ' || c = '\t' || c = '\n' || c = '\x0c' || c = '\r'

/-- A blank after another one; a vertical tab is one only here. -/
def continuesBlank (c : Char) : Bool := startsBlank c || c = '\x0b'

/-- The mark of the byte order, which stands for nothing between tokens. -/
def byteOrderMark : Char := '\ufeff'

def isHexDigit (c : Char) : Bool := (Text.hexValue? c).isSome

/-- The symbols, a longer one before those that it starts with. -/
def symbols : List String :=
  [ "->>", "->", "==", "<=", "<>", "<<", ">=", ">>", "!=", "||", ",", "=", ";", "(", ")", "*", "+",
    "-", "/", ".", "<", ">", "%", "&", "|", "~" ]

/-! ## Reading one token -/

/-- What was read from the front of a text, and the rest of the text. -/
structure Front (α : Type) (text : List Char) where
  value : α
  rest : List Char
  length_le : rest.length ≤ text.length

/-- The longest front whose characters are in the class. -/
def span (p : Char → Bool) (text : List Char) : Front (List Char) text where
  value := text.takeWhile p
  rest := text.dropWhile p
  length_le := (List.dropWhile_sublist p).length_le

/-- Looks at the rest of a front and goes on from there. -/
def Front.andThen {α β : Type} {text : List Char} (front : Front α text)
    (next : (rest : List Char) → Front β rest) : Front (α × β) text :=
  let after := next front.rest
  ⟨(front.value, after.value), after.rest, Nat.le_trans after.length_le front.length_le⟩

def Front.map {α β : Type} {text : List Char} (f : α → β) (front : Front α text) :
    Front β text :=
  ⟨f front.value, front.rest, front.length_le⟩

/-- The content of a run up to its closing character, a doubled one standing for itself. -/
def quotedRun (close : Char) (doubling : Bool) :
    (text : List Char) → Option (Front (List Char) text)
  | [] => none
  | [c] => if c = close then some ⟨[], [], Nat.zero_le _⟩ else none
  | c :: d :: rest =>
    if c = close then
      if doubling ∧ d = close then
        (quotedRun close doubling rest).map fun front =>
          ⟨close :: front.value, front.rest, by
            have := front.length_le; simp only [List.length_cons]; omega⟩
      else some ⟨[], d :: rest, by simp⟩
    else
      (quotedRun close doubling (d :: rest)).map fun front =>
        ⟨c :: front.value, front.rest, by
          have := front.length_le; simp only [List.length_cons] at this ⊢; omega⟩

/-- The rest after the end of a block comment, or nothing if it is never closed. -/
def blockCommentRest : (text : List Char) → Front Unit text
  | [] => ⟨(), [], Nat.le_refl _⟩
  | [_] => ⟨(), [], Nat.zero_le _⟩
  | c :: d :: rest =>
    if c = '*' ∧ d = '/' then ⟨(), rest, by simp only [List.length_cons]; omega⟩
    else
      let front := blockCommentRest (d :: rest)
      ⟨(), front.rest, by
        have := front.length_le; simp only [List.length_cons] at this ⊢; omega⟩

def decimalValue (digits : List Char) : Nat :=
  digits.foldl (fun value c => 10 * value + digitValue c) 0

/-- A point and the digits after it. -/
def fractionPart (text : List Char) : Front (Option (List Char)) text :=
  match text with
  | '.' :: rest =>
    let digits := span Char.isDigit rest
    ⟨some digits.value, digits.rest, by
      have := digits.length_le; simp only [List.length_cons]; omega⟩
  | text => ⟨none, text, Nat.le_refl _⟩

def signAt : (text : List Char) → Front Int text
  | [] => ⟨1, [], Nat.le_refl _⟩
  | c :: rest =>
    if c = '-' then ⟨-1, rest, by simp⟩
    else if c = '+' then ⟨1, rest, by simp⟩
    else ⟨1, c :: rest, Nat.le_refl _⟩

/-- The digits of an exponent; beyond this size it makes no difference. -/
def exponentValue (digits : List Char) : Nat :=
  digits.foldl (fun value c => if value < 10000 then 10 * value + digitValue c else 10000) 0

/-- An `e`, a sign if there is one, and digits. -/
def exponentPart : (text : List Char) → Front (Option Int) text
  | [] => ⟨none, [], Nat.le_refl _⟩
  | c :: rest =>
    let parts := (signAt rest).andThen (span Char.isDigit)
    if (c = 'e' ∨ c = 'E') ∧ parts.value.2 ≠ [] then
      ⟨some (parts.value.1 * exponentValue parts.value.2), parts.rest, by
        have := parts.length_le; simp only [List.length_cons]; omega⟩
    else ⟨none, c :: rest, Nat.le_refl _⟩

/-- A number: an integer if it has no point and no exponent, else a real. -/
def numberKind (whole : List Char) (fraction : Option (List Char)) (exponent : Option Int) : Kind :=
  if fraction.isNone ∧ exponent.isNone then .integer (decimalValue whole)
  else .real { whole, places := fraction.getD [], exponent := exponent.getD 0 }

/-- A number from its first character on. A word must not follow it directly. -/
def number (text : List Char) : Front Kind text :=
  let front := ((span Char.isDigit text).andThen fractionPart).andThen exponentPart
  let ((whole, fraction), exponent) := front.value
  if front.rest.head?.any Identifier.continues then front.map fun _ => .illegal
  else front.map fun _ => numberKind whole fraction exponent

/-- The digits of a hexadecimal number after its zero. -/
def hexadecimalAt (rest : List Char) : Option (Front Kind rest) :=
  match rest with
  | mark :: digits =>
    if (mark = 'x' ∨ mark = 'X') ∧ digits.head?.any isHexDigit then
      let front := span isHexDigit digits
      some ⟨.hexadecimal front.value, front.rest, by
        have := front.length_le; simp only [List.length_cons]; omega⟩
    else none
  | [] => none

/-- The rest of a variable's name: characters of words, pairs of colons, and at the end a part in
brackets. There has to be a character of a word in it. -/
def variableName (hasWord : Bool) : (text : List Char) → Front (Option (List Char)) text
  | [] => ⟨if hasWord then some [] else none, [], Nat.le_refl _⟩
  | [c] =>
    if Identifier.continues c then ⟨some [c], [], Nat.zero_le _⟩
    else ⟨if hasWord ∧ c ≠ '(' then some [] else none, [c], Nat.le_refl _⟩
  | c :: d :: rest =>
    if Identifier.continues c then
      let front := variableName true (d :: rest)
      ⟨front.value.map (c :: ·), front.rest, by
        have := front.length_le; simp only [List.length_cons] at this ⊢; omega⟩
    else if c = ':' ∧ d = ':' then
      let front := variableName hasWord rest
      ⟨front.value.map (c :: d :: ·), front.rest, by
        have := front.length_le; simp only [List.length_cons]; omega⟩
    else if c = '(' ∧ hasWord then
      match quotedRun ')' false (d :: rest) with
      | some front =>
        ⟨if front.value.any continuesBlank then none else some (c :: front.value ++ [')']),
          front.rest, by
            have := front.length_le; simp only [List.length_cons] at this ⊢; omega⟩
      | none => ⟨none, c :: d :: rest, Nat.le_refl _⟩
    else ⟨if hasWord then some [] else none, c :: d :: rest, Nat.le_refl _⟩

/-- A variable with a name. After `#` the name must not start with a digit. -/
def namedVariable (sign : Char) (name : Option (List Char)) : Kind :=
  match name with
  | some name =>
    if sign = '#' ∧ name.head?.any Char.isDigit then .illegal
    else .parameter (.named (String.ofList (sign :: name)))
  | none => .illegal

def closedRun {text : List Char} (kind : List Char → Kind)
    (run : Option (Front (List Char) text)) : Front Kind text :=
  match run with
  | some front => front.map kind
  | none => ⟨.illegal, text, Nat.le_refl _⟩

def symbolAt (c : Char) (rest : List Char) : Front Kind rest :=
  match symbols.find? fun s => s.toList.isPrefixOf (c :: rest) with
  | some s => ⟨.symbol s, rest.drop (s.length - 1), by simp only [List.length_drop]; omega⟩
  | none => ⟨.illegal, rest, Nat.le_refl _⟩

def kindAt (c : Char) (rest : List Char) : Front Kind rest :=
  if c = '\'' then closedRun (fun content => .text (String.ofList content)) (quotedRun c true rest)
  else if c = '"' ∨ c = '\x60' then
    closedRun (fun content => .name c (String.ofList content)) (quotedRun c true rest)
  else if c = '[' then
    closedRun (fun content => .name c (String.ofList content)) (quotedRun ']' false rest)
  else if c = '?' then
    (span Char.isDigit rest).map fun index =>
      .parameter (if index.isEmpty then .bare else .indexed (decimalValue index))
  else if c = '$' ∨ c = ':' ∨ c = '@' ∨ c = '#' then
    (variableName false rest).map (namedVariable c)
  else if c.isDigit ∨ c = '.' ∧ rest.head?.any Char.isDigit then
    match if c = '0' then hexadecimalAt rest else none with
    | some front => front
    | none =>
      let front := number (c :: rest)
      if h : front.rest.length ≤ rest.length then ⟨front.value, front.rest, h⟩
      else ⟨.illegal, rest, Nat.le_refl _⟩
  else if Identifier.starts c then
    (span Identifier.continues rest).map fun more => .word (String.ofList (c :: more))
  else symbolAt c rest

/-- The blob that starts with `x`, if there is one. -/
def blobAt (c : Char) (rest : List Char) : Option (Front Kind rest) :=
  match rest with
  | '\'' :: more =>
    if c = 'x' ∨ c = 'X' then
      match quotedRun '\'' false more with
      | some front =>
        some ⟨((Text.hexBytes? front.value).map .blob).getD .illegal, front.rest, by
          have := front.length_le; simp only [List.length_cons]; omega⟩
      | none => some ⟨.illegal, '\'' :: more, Nat.le_refl _⟩
    else none
  | _ => none

/-- The rest after the comment that starts with `c`, if there is one. A block comment that is never
closed goes to the end of the text, but its opening has to be followed by something. -/
def commentAt (c : Char) (rest : List Char) : Option (Front Unit rest) :=
  match rest with
  | d :: more =>
    if c = '-' ∧ d = '-' then
      let line := span (· != '\n') more
      some ⟨(), line.rest, by have := line.length_le; simp only [List.length_cons]; omega⟩
    else if c = '/' ∧ d = '*' ∧ more ≠ [] then
      let front := blockCommentRest more
      some ⟨(), front.rest, by have := front.length_le; simp only [List.length_cons]; omega⟩
    else none
  | [] => none

/-- The rest after what stands between two tokens: blanks, a byte order mark or a comment. -/
def gapAt (c : Char) (rest : List Char) : Option (Front Unit rest) :=
  if startsBlank c then some ((span continuesBlank rest).map fun _ => ())
  else if c = byteOrderMark then some ⟨(), rest, Nat.le_refl _⟩
  else commentAt c rest

/-! ## Reading all tokens -/

/-- The characters of `text` before its end `rest`. -/
def upTo (text rest : List Char) : List Char := text.take (text.length - rest.length)

/-- Splits a text into the gap at its front, and tokens. -/
def readAll (text : List Char) : List Char × List Token :=
  match text with
  | [] => ([], [])
  | c :: rest =>
    match gapAt c rest with
    | some front =>
      let (gap, tokens) := readAll front.rest
      (c :: upTo rest front.rest ++ gap, tokens)
    | none =>
      let front := (blobAt c rest).getD (kindAt c rest)
      let (gap, tokens) := readAll front.rest
      ([], ⟨front.value, c :: upTo rest front.rest, gap⟩ :: tokens)
termination_by text.length
decreasing_by
  · have := front.length_le; simp only [List.length_cons]; omega
  · have := ((blobAt c rest).getD (kindAt c rest)).length_le
    simp only [List.length_cons]; omega

def read (sql : String) : List Token := (readAll sql.toList).2

def isKeyword (keyword : String) (token : Token) : Bool :=
  match token.kind with
  | .word text => text.toUpper == keyword
  | _ => false

end Token

end SqlStatement
