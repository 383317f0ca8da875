import SqlStatement.Engine.Cell
import SqlStatement.Engine.Table.Definition
import SqlStatement.Error

/-!
# Statements that the engine understands

The engine answers statements that need no stored table: a `SELECT` of literals and variables, with
one comparison as its condition and with a limit, and the question for the journal mode. It also
takes the creation of a table. `Statement.ofTokens` reads one statement; everything else is refused.
-/

namespace SqlStatement

inductive Operand where
  | parameter (which : Variable)
  | literal (value : Cell)
  deriving DecidableEq

structure ResultColumn where
  operand : Operand
  name : String
  deriving DecidableEq

/-- A `SELECT` without tables. -/
structure Selection where
  columns : List ResultColumn
  /-- The two sides of a comparison. -/
  condition : Option (Operand × Operand) := none
  limit : Option Operand := none
  offset : Option Operand := none
  deriving DecidableEq

inductive TableSource where
  | definition (table : TableDefinition)
  | selection (selection : Selection)
  deriving DecidableEq

structure TableCreation where
  isTemporary : Bool
  /-- Nothing is done if there is such a table. -/
  ifMissing : Bool
  table : TableName
  source : TableSource
  deriving DecidableEq

inductive Statement where
  | select (selection : Selection)
  | journalMode
  | createTable (creation : TableCreation)
  deriving DecidableEq

namespace Statement

open TokenReader

/-! ## Operands -/

def maxInteger : Nat := 0x7fffffffffffffff

/-- An integer, or the real that stands for one out of range. -/
def integerValue (negative : Bool) (n : Nat) : Cell :=
  if n ≤ maxInteger ∨ (negative ∧ n = maxInteger + 1) then
    .integer (Int64.ofInt (if negative then -(n : Int) else n))
  else .real ((Numeral.ofNat n).toBinary64 negative)

/-- Hexadecimal digits are the bits of an integer, of which there are 64. The least integer has no
sign to change. -/
def hexadecimalValue (negative : Bool) (digits : List Char) : Option Cell :=
  let significant := digits.dropWhile (· = '0')
  let value := significant.foldl (fun value c => 16 * value + (Text.hexValue? c).getD 0) 0
  let integer := (UInt64.ofNat value).toInt64
  if 16 < significant.length ∨ (negative ∧ value = maxInteger + 1) then none
  else some (.integer (if negative then -integer else integer))

def numberValue (negative : Bool) (token : Token) : Option Cell :=
  match token.kind with
  | .integer n => some (integerValue negative n)
  | .hexadecimal digits => hexadecimalValue negative digits
  | .real numeral => some (.real (numeral.toBinary64 negative))
  | _ => none

/-- A name in double quotes that stands for nothing is a text. -/
def simpleOperand (token : Token) : Option Operand :=
  match token.kind with
  | .parameter which => some (.parameter which)
  | .text content => some (.literal (.text content))
  | .blob bytes => some (.literal (.blob bytes))
  | .name quote content => if quote = '"' then some (.literal (.text content)) else none
  | .word _ =>
    if token.isKeyword "NULL" then some (.literal .null)
    else if token.isKeyword "TRUE" then some (.literal (.integer 1))
    else if token.isKeyword "FALSE" then some (.literal (.integer 0))
    else none
  | _ => (numberValue false token).map .literal

/-- A number has one sign at most. -/
def operand : TokenReader Operand :=
  (symbol "-" *> next fun token => (numberValue true token).map .literal) <|>
    (symbol "+" *> next fun token => (numberValue false token).map .literal) <|>
    next simpleOperand

/-! ## Selections -/

def columnName : TokenReader String :=
  (keyword "AS" *> name) <|> nameExcept ("INDEXED" :: joining ++ matching ++ reserved) <|> textName

/-- The tokens as they are written, up to the token that follows them, without blanks at the end. -/
def written (tokens : List Token) : String :=
  let text := tokens.flatMap fun token => token.written ++ token.gap
  String.ofList (text.reverse.dropWhile Token.continuesBlank).reverse

/-- A column is named by its alias, or by its operand as it is written. -/
def resultColumn : TokenReader ResultColumn := do
  let tokens ← get
  let operand ← operand
  let rest ← get
  let given ← optional columnName
  return ⟨operand, given.getD (written (tokens.take (tokens.length - rest.length)))⟩

def equation : TokenReader (Operand × Operand) := do
  let left ← operand
  symbolOf ["=", "=="]
  let right ← operand
  return (left, right)

/-- A limit with an offset if there is one, or the two in reverse order with a comma. -/
def limits : TokenReader (Operand × Option Operand) := do
  let first ← keyword "LIMIT" *> operand
  let swapped : TokenReader (Operand × Option Operand) := do
    let limit ← symbol "," *> operand
    return (limit, some first)
  swapped <|> Prod.mk first <$> optional (keyword "OFFSET" *> operand)

def selection : TokenReader Selection := do
  let _ ← keyword "SELECT" *> optional (keywordOf ["ALL", "DISTINCT"])
  let columns ← listOf resultColumn
  let condition ← optional (keyword "WHERE" *> equation)
  let limits ← optional limits
  return { columns, condition, limit := limits.map Prod.fst, offset := limits.bind Prod.snd }

/-! ## Statements -/

def tableName : TokenReader TableName := do
  let first ← name
  let second ← optional (symbol "." *> name)
  return match second with
    | some second => ⟨some first, second⟩
    | none => ⟨none, first⟩

def tableCreation : TokenReader TableCreation := do
  let temporary ← keyword "CREATE" *> optional (keywordOf ["TEMP", "TEMPORARY"])
  keyword "TABLE"
  let ifMissing ← optional (keywords ["IF", "NOT", "EXISTS"])
  let table ← tableName
  let source ← (keyword "AS" *> (.selection <$> selection)) <|>
    (.definition <$> TableDefinition.read)
  return { isTemporary := temporary.isSome, ifMissing := ifMissing.isSome, table, source }

def statement : TokenReader Statement :=
  (.select <$> selection) <|>
    (keywords ["PRAGMA", "JOURNAL_MODE"] *> pure .journalMode) <|>
    (.createTable <$> tableCreation)

def ofTokens (tokens : List Token) : Except EngineError Statement :=
  match readAll statement tokens with
  | some statement => .ok statement
  | none => .error (.badStatement "syntax error")

/-- The parts between the tokens with the property. -/
def splitBy (p : Token → Bool) : List Token → List (List Token)
  | [] => [[]]
  | token :: rest =>
    if p token then [] :: splitBy p rest
    else
      match splitBy p rest with
      | part :: parts => (token :: part) :: parts
      | [] => [[token]]

/-- The tokens of the statements of a text, which semicolons separate. -/
def split (sql : String) : List (List Token) :=
  (splitBy (·.kind = .symbol ";") (Token.read sql)).filter (!·.isEmpty)

end Statement

end SqlStatement
