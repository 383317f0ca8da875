import SqlStatement.Engine.TokenReader

/-!
# Expressions

The definition of a table has expressions in it, which the engine looks over and does not evaluate.
`Expression.read` reads one and returns what it mentions, from left to right: that is all that
decides whether the engine takes it. Queries inside expressions are not read; no definition may
have one.
-/

namespace SqlStatement

inductive Mention where
  | variable
  /-- A name by itself, with its opening quote if it has one. -/
  | column (quote : Option Char) (name : String)
  /-- Names with points between them. -/
  | path (names : List String)
  /-- A function that is called with a number of arguments. -/
  | call (function : String) (arity : Nat)
  | collation (name : String)
  /-- A demand to fail, which only a trigger can make. -/
  | failure
  deriving DecidableEq

abbrev Expression := List Mention

namespace Expression

open TokenReader

def arithmetic : List String :=
  ["+", "-", "*", "/", "%", "||", "&", "|", "<<", ">>", "->", "->>"]

def comparisons : List String := ["=", "==", "<>", "!=", "<", "<=", ">", ">="]

/-- A token that is a value by itself. -/
def literal : TokenReader Expression :=
  next fun token =>
    match token.kind with
    | .integer _ | .hexadecimal _ | .real _ | .text _ | .blob _ => some []
    | .parameter _ => some [.variable]
    | .word _ =>
      if token.isKeyword "NULL" then some []
      else
        (["CURRENT_DATE", "CURRENT_TIME", "CURRENT_TIMESTAMP"].find? token.isKeyword).map
          fun function => [.call function 0]
    | _ => none

def signedNumber : TokenReader Unit :=
  optional (symbolOf ["+", "-"]) *> next fun token =>
    match token.kind with
    | .integer _ | .hexadecimal _ | .real _ => some ()
    | _ => none

def typeSizes : TokenReader Unit :=
  inBrackets (signedNumber *> optional (symbol "," *> signedNumber)) *> pure ()

/-- The words of a type's name, of which there may be none, and whether sizes follow them. -/
def typeName : TokenReader (List String × Bool) := do
  let words ← many plainName
  if words = [] then return ([], false)
  else
    let sizes ← optional typeSizes
    return (words, sizes.isSome)

def arguments (inner : TokenReader Expression) : TokenReader (List Expression) :=
  (symbol "*" *> pure []) <|>
    (optional (keywordOf ["DISTINCT", "ALL"]) *> (listOf inner <|> pure []))

/-- A name, a path of names, or a call. -/
def reference (inner : TokenReader Expression) : TokenReader Expression := do
  let quote ← fun tokens =>
    match tokens with
    | ⟨.name quote _, _, _⟩ :: _ => some (some quote, tokens)
    | _ => some (none, tokens)
  let first ← nameExcept ("CAST" :: "RAISE" :: reserved)
  let call : TokenReader Expression := do
    let arguments ← inBrackets (arguments inner)
    return .call first arguments.length :: arguments.flatten
  let path : TokenReader Expression := do
    let second ← symbol "." *> name
    let third ← optional (symbol "." *> name)
    return [.path (first :: second :: third.toList)]
  call <|> path <|> pure [.column quote first]

def cast (inner : TokenReader Expression) : TokenReader Expression :=
  keyword "CAST" *> inBrackets (inner <* keyword "AS" <* typeName)

def cases (inner : TokenReader Expression) : TokenReader Expression := do
  keyword "CASE"
  let subject ← optional inner
  let branch : TokenReader Expression := do
    let condition ← keyword "WHEN" *> inner
    let result ← keyword "THEN" *> inner
    return condition ++ result
  let first ← branch
  let others ← many branch
  let default ← optional (keyword "ELSE" *> inner)
  keyword "END"
  return subject.getD [] ++ first ++ others.flatten ++ default.getD []

def raise : TokenReader Expression :=
  keyword "RAISE" *> inBrackets
    (keyword "IGNORE" <|>
      (keywordOf ["ROLLBACK", "ABORT", "FAIL"] *> symbol "," *> name *> pure ()))
    *> pure [.failure]

/-- What stands between operators, with the operators before it. -/
def operand (inner : TokenReader Expression) : TokenReader Expression := do
  let _ ← many (keyword "NOT" <|> symbolOf ["-", "+", "~"])
  literal <|> cast inner <|> cases inner <|> raise <|> reference inner <|>
    List.flatten <$> inBrackets (listOf inner)

/-- Operands with arithmetic between them. -/
def sum (inner : TokenReader Expression) : TokenReader Expression := do
  let first ← operand inner
  let others ← many <|
    (symbolOf arithmetic *> operand inner) <|>
      (keyword "COLLATE" *> ((fun name => [.collation name]) <$> plainName))
  return first ++ others.flatten

/-- What can follow a sum that is compared with something. -/
def comparison (inner : TokenReader Expression) : TokenReader Expression :=
  let between : TokenReader Expression := do
    let low ← keyword "BETWEEN" *> sum inner
    let high ← keyword "AND" *> sum inner
    return low ++ high
  let among : TokenReader Expression :=
    keyword "IN" *> inBrackets (List.flatten <$> (listOf inner <|> pure []))
  let alike : TokenReader Expression := do
    let operator ← keywordOf matching
    let pattern ← sum inner
    let escape ← optional (keyword "ESCAPE" *> sum inner)
    let function := if operator = "REGEXP" then [.call "regexp" 2] else []
    return function ++ pattern ++ escape.getD []
  let same : TokenReader Expression :=
    keyword "IS" *> optional (keyword "NOT") *> optional (keywords ["DISTINCT", "FROM"]) *>
      sum inner
  (symbolOf comparisons *> sum inner) <|> same <|>
    (keywordOf ["ISNULL", "NOTNULL"] *> pure []) <|>
    (keywords ["NOT", "NULL"] *> pure []) <|>
    (optional (keyword "NOT") *> (between <|> among <|> alike))

/-- Sums, compared with each other and joined by `AND` and `OR`. -/
def chain (inner : TokenReader Expression) : TokenReader Expression := do
  let first ← sum inner
  let others ← many (comparison inner <|> (keywordOf ["AND", "OR"] *> sum inner))
  return first ++ others.flatten

/-- An expression in which brackets are nested less deep than `depth`. -/
def nested : Nat → TokenReader Expression
  | 0 => failure
  | depth + 1 => chain (nested depth)

/-- Brackets cannot be nested deeper than there are tokens. -/
def read : TokenReader Expression := fun tokens => nested (tokens.length + 1) tokens

end Expression

end SqlStatement
