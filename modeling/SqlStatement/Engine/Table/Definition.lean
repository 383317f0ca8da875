import SqlStatement.Engine.Table.Basic

/-!
# Reading the definition of a table

A definition lists columns and then constraints, in brackets, with options after them. After its
name a column has the words of its type, and constraints that may follow each other in any order and
number.
-/

namespace SqlStatement

namespace TableDefinition

open TokenReader

/-! ## Parts of constraints -/

def descending : TokenReader Bool := do
  let order ← optional (keywordOf ["ASC", "DESC"])
  return order = some "DESC"

/-- What happens when the constraint is violated. -/
def onConflict : TokenReader Unit := do
  let conflict ← optional (keywords ["ON", "CONFLICT"])
  if conflict.isSome then
    let _ ← keywordOf ["ROLLBACK", "ABORT", "FAIL", "IGNORE", "REPLACE"]

def autoincrement : TokenReader Bool := Option.isSome <$> optional (keyword "AUTOINCREMENT")

def collation : TokenReader String := keyword "COLLATE" *> plainName

/-- The tokens between the outermost brackets, as long as there are some. -/
def stripBrackets : Nat → List Token → List Token
  | 0, tokens => tokens
  | depth + 1, tokens =>
    if tokens.head?.any (·.kind = .symbol "(") ∧ tokens.getLast?.any (·.kind = .symbol ")") then
      stripBrackets depth (tokens.drop 1).dropLast
    else tokens

/-- The column that an expression is, with its collation. -/
def keyColumn (tokens : List Token) : Option (String × Option String) :=
  let bare := stripBrackets tokens.length tokens
  let inner := bare.takeWhile fun token => !token.isKeyword "COLLATE"
  let outer := bare.dropWhile fun token => !token.isKeyword "COLLATE"
  match readAll name (stripBrackets inner.length inner), readAll (many collation) outer with
  | some column, some collations => some (column, collations.getLast?)
  | _, _ => none

def keyPart : TokenReader KeyPart := do
  let tokens ← get
  let _ ← Expression.read
  let rest ← get
  let column := keyColumn (tokens.take (tokens.length - rest.length))
  let _ ← descending
  let nulls ← optional (keyword "NULLS" *> keywordOf ["FIRST", "LAST"])
  return { column := column.map Prod.fst, collation := column.bind Prod.snd,
           placesNulls := nulls.isSome }

/-- What happens to a reference when its target changes. -/
def referenceAction : TokenReader Unit :=
  (keyword "MATCH" *> name *> pure ()) <|>
    (keyword "ON" *> keywordOf ["INSERT", "DELETE", "UPDATE"] *>
      (keywords ["SET", "NULL"] <|> keywords ["SET", "DEFAULT"] <|> keyword "CASCADE" <|>
        keyword "RESTRICT" <|> keywords ["NO", "ACTION"]))

def deferral : TokenReader Unit := do
  let _ ← optional (keyword "NOT")
  keyword "DEFERRABLE"
  let initially ← optional (keyword "INITIALLY")
  if initially.isSome then
    let _ ← keywordOf ["DEFERRED", "IMMEDIATE"]

/-- Another table, the number of its columns if they are named, and what happens when they
change. -/
def target : TokenReader (Option Nat) := do
  let _ ← keyword "REFERENCES" *> name
  let columns ← optional (inBrackets (listOf name))
  let _ ← many referenceAction
  return columns.map List.length

/-! ## Constraints -/

/-- A value in place of one that is missing. -/
def defaultValue : TokenReader Expression :=
  inBrackets Expression.read <|>
    (optional (symbolOf ["+", "-"]) *> next fun token =>
      match token.kind with
      | .parameter _ => none
      | _ => (Expression.literal [token]).map fun _ => []) <|>
    (nameExcept (joining ++ reserved) *> pure [])

/-- A computed value, and the word for how it is kept, without quotes. -/
def generatedValue : TokenReader ColumnConstraint := do
  let value ← inBrackets Expression.read
  let tokens ← get
  let kind ← optional (nameExcept ("INDEXED" :: joining ++ reserved))
  let written := (tokens.head?.map Token.written).getD []
  return .generated value (kind.map fun _ => String.ofList written)

def columnConstraint : TokenReader ColumnConstraint :=
  (keyword "CONSTRAINT" *> name *> pure .plain) <|>
    (keyword "DEFAULT" *> (.default <$> defaultValue)) <|>
    (keyword "NULL" *> onConflict *> pure .plain) <|>
    (keywords ["NOT", "NULL"] *> onConflict *> pure .plain) <|>
    (do
      keywords ["PRIMARY", "KEY"]
      let descending ← descending
      onConflict
      return .primaryKey descending (← autoincrement)) <|>
    (keyword "UNIQUE" *> onConflict *> pure .plain) <|>
    (keyword "CHECK" *> (.check <$> inBrackets Expression.read)) <|>
    (.references <$> target) <|>
    (deferral *> pure .plain) <|>
    (.collate <$> collation) <|>
    (optional (keywords ["GENERATED", "ALWAYS"]) *> keyword "AS" *> generatedValue)

def column : TokenReader ColumnDefinition := do
  let name ← name
  let (type, isSized) ← Expression.typeName
  let constraints ← many columnConstraint
  return { name, type, isSized, constraints }

def tableConstraint : TokenReader TableConstraint :=
  (keyword "CONSTRAINT" *> name *> pure .plain) <|>
    (do
      keywords ["PRIMARY", "KEY"]
      let (parts, autoincrement) ← inBrackets (Prod.mk <$> listOf keyPart <*> autoincrement)
      onConflict
      return .primaryKey parts autoincrement) <|>
    (keyword "UNIQUE" *> (.unique <$> inBrackets (listOf keyPart)) <* onConflict) <|>
    (keyword "CHECK" *> (.check <$> inBrackets Expression.read) <* onConflict) <|>
    (do
      let columns ← keywords ["FOREIGN", "KEY"] *> inBrackets (listOf name)
      let targets ← target
      let _ ← optional deferral
      return .foreignKey columns targets)

def tableConstraints : TokenReader (List TableConstraint) := do
  let first ← tableConstraint
  let others ← many (optional (symbol ",") *> tableConstraint)
  return first :: others

def tableOption : TokenReader TableOption :=
  (keyword "WITHOUT" *> (.without <$> nameAsWritten)) <|> (.named <$> nameAsWritten)

/-! ## Definitions -/

/-- Columns and constraints in brackets, and options. -/
def read : TokenReader TableDefinition := do
  symbol "("
  let first ← column
  let others ← many (symbol "," *> column)
  let constraints ← optional (symbol "," *> tableConstraints)
  symbol ")"
  let options ← optional (listOf tableOption)
  return {
    columns := first :: others
    constraints := constraints.getD []
    options := options.getD [] }

end TableDefinition

end SqlStatement
