import SqlStatement.Engine.Token

/-!
# Reading tokens

A `TokenReader` takes what it reads from the front of a list of tokens, or fails. `many` repeats a
reader; a list of tokens has at most as many parts as tokens, so it comes to an end.

A word is a keyword only where one is expected. The reserved words are never names, and a name
without quotes may not be one of the words that join tables where a table could be joined.
-/

namespace SqlStatement

/-- Reads something from the front of a list of tokens. -/
abbrev TokenReader := StateT (List Token) Option

namespace TokenReader

variable {α : Type}

/-- The next token, if it is one that `f` knows. -/
def next (f : Token → Option α) : TokenReader α
  | [] => none
  | token :: rest => (f token).map fun a => (a, rest)

def keyword (word : String) : TokenReader Unit :=
  next fun token => if token.isKeyword word then some () else none

def keywords (words : List String) : TokenReader Unit := words.forM keyword

def keywordOf (words : List String) : TokenReader String :=
  next fun token => words.find? token.isKeyword

def symbol (text : String) : TokenReader Unit :=
  next fun token => if token.kind = .symbol text then some () else none

def symbolOf (texts : List String) : TokenReader Unit :=
  next fun token => if texts.any fun text => token.kind = .symbol text then some () else none

/-- As often as it can be read, up to a number of times. -/
def manyUpTo (reader : TokenReader α) : Nat → TokenReader (List α)
  | 0 => pure []
  | count + 1 => fun tokens =>
    match reader tokens with
    | none => some ([], tokens)
    | some (a, rest) => (manyUpTo reader count rest).map fun (more, rest) => (a :: more, rest)

def many (reader : TokenReader α) : TokenReader (List α) :=
  fun tokens => manyUpTo reader tokens.length tokens

/-- One or more, with commas between them. -/
def listOf (reader : TokenReader α) : TokenReader (List α) := do
  let first ← reader
  let others ← many (symbol "," *> reader)
  return first :: others

def inBrackets (reader : TokenReader α) : TokenReader α := symbol "(" *> reader <* symbol ")"

def readAll (reader : TokenReader α) (tokens : List Token) : Option α :=
  match reader tokens with
  | some (a, []) => some a
  | _ => none

/-! ## Names -/

/-- The words that are no names. -/
def reserved : List String :=
  [ "ADD", "ALL", "ALTER", "AND", "AS", "AUTOINCREMENT", "BETWEEN", "CASE", "CHECK", "COLLATE",
    "COMMIT", "CONSTRAINT", "CREATE", "DEFAULT", "DEFERRABLE", "DELETE", "DISTINCT", "DROP", "ELSE",
    "ESCAPE", "EXCEPT", "EXISTS", "FOREIGN", "FROM", "GROUP", "HAVING", "IN", "INDEX", "INSERT",
    "INTERSECT", "INTO", "IS", "ISNULL", "JOIN", "LIMIT", "NOT", "NOTHING", "NOTNULL", "NULL", "ON",
    "OR", "ORDER", "PRIMARY", "REFERENCES", "RETURNING", "SELECT", "SET", "TABLE", "THEN", "TO",
    "TRANSACTION", "UNION", "UNIQUE", "UPDATE", "USING", "VALUES", "WHEN", "WHERE" ]

/-- The words that join tables. -/
def joining : List String :=
  ["CROSS", "FULL", "INNER", "LEFT", "NATURAL", "OUTER", "RIGHT"]

/-- The words that compare texts. -/
def matching : List String := ["GLOB", "LIKE", "MATCH", "REGEXP"]

/-- A word that is none of these, or a name in quotes. -/
def nameExcept (words : List String) : TokenReader String :=
  next fun token =>
    match token.kind with
    | .word text => if text.toUpper ∈ words then none else some text
    | .name _ text => some text
    | _ => none

/-- A text in place of a name. -/
def textName : TokenReader String :=
  next fun token =>
    match token.kind with
    | .text content => some content
    | _ => none

/-- A name where one has to be. -/
def name : TokenReader String := nameExcept reserved <|> textName

/-- A name as it is written, with its quotes. -/
def nameAsWritten : TokenReader String := do
  let tokens ← get
  let _ ← name
  return String.ofList ((tokens.head?.map Token.written).getD [])

/-- A name where something else could be as well. -/
def plainName : TokenReader String := nameExcept ("INDEXED" :: joining ++ reserved) <|> textName

end TokenReader

end SqlStatement
