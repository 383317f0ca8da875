import SqlStatement.Binary64.Shortest
import SqlStatement.Engine.Binding

/-!
# Answering a selection

A selection without tables has one row, unless its condition or its limit takes it away. The
variables are numbered in the order in which they are written: columns, condition, limit, offset.
-/

namespace SqlStatement

namespace Source

/-- The cell, where `bound` holds the cells of the variables; what is not bound is null. -/
def cell (bound : List (Nat × Cell)) : Source → Cell
  | .literal v => v
  | .number n => (bound.lookup n).getD .null

end Source

def Binary64.isInt (x : Binary64) (n : Int) : Bool :=
  let magnitude := x.significand * Nat.pow 2 x.scale.toNat
  let unit := Nat.pow 2 (-x.scale).toNat
  x.isFinite && decide ((if x.isNegative then -(magnitude : Int) else magnitude) = n * unit)

/-- The integer that the number is, if it is one whose magnitude is below `2 ^ 63`. -/
def Binary64.toInt? (x : Binary64) : Option Int :=
  let magnitude := x.significand * Nat.pow 2 x.scale.toNat / Nat.pow 2 (-x.scale).toNat
  let n : Int := if x.isNegative then -(magnitude : Int) else magnitude
  if x.isInt n ∧ magnitude ≤ Statement.maxInteger then some n else none

/-- The comparison of two cells holds. A null is equal to nothing, and numbers are compared as
numbers. -/
def Cell.comparesEqual : Cell → Cell → Bool
  | .null, _ | _, .null => false
  | .integer n, .real x | .real x, .integer n => x.isInt n.toInt
  | .real x, .real y => x.sameNumber y
  | v, w => decide (v = w)

namespace Selection

/-- The number that a text is, with blanks around it and a sign. -/
def numberOfText (s : String) : Option Cell :=
  let text := s.toList.dropWhile Token.continuesBlank
  let text := (text.reverse.dropWhile Token.continuesBlank).reverse
  let sign := Token.signAt text
  let number := Token.number sign.rest
  let hasDigit := match sign.rest with
    | '.' :: c :: _ | c :: _ => c.isDigit
    | [] => false
  match number.value, number.rest, hasDigit with
  | .integer n, [], true => some (Statement.integerValue (sign.value < 0) n)
  | .real numeral, [], true => some (.real (numeral.toBinary64 (sign.value < 0)))
  | _, _, _ => none

/-- The integer that a cell is: itself, or the value of a real or of a text. -/
def integerOf (v : Cell) : Option Int :=
  let number := match v with
    | .text s => numberOfText s
    | v => some v
  match number with
  | some (.integer n) => some n.toInt
  | some (.real x) => x.toInt?
  | _ => none

def count (v : Cell) : Except EngineError Int :=
  match integerOf v with
  | some n => .ok n
  | none => .error (.badStatement "datatype mismatch")

/-- The first row is within a limit and not passed over by an offset. A negative limit is none, and
the offset is not looked at where the limit is 0. -/
def admitsFirst (limit offset : List Cell) : Except EngineError Bool := do
  let limit ← limit.mapM count
  if limit = [0] then return false
  else
    let offset ← offset.mapM count
    return offset.all fun n => decide (n ≤ 0)

def rows (s : Selection) (args : List Argument) : Except EngineError (List CellRow) := do
  if maxColumns < s.columns.length then
    throw (.badStatement "too many columns in result set")
  let sides := match s.condition with
    | some (left, right) => [left, right]
    | none => []
  let numbers : Numbers := {}
  let (columns, numbers) ← numbers.assignAll (s.columns.map ResultColumn.operand)
  let (condition, numbers) ← numbers.assignAll sides
  let (limit, numbers) ← numbers.assignAll s.limit.toList
  let (offset, numbers) ← numbers.assignAll s.offset.toList
  let bound ← Binding.bind numbers args
  let admitted ← admitsFirst (limit.map (Source.cell bound)) (offset.map (Source.cell bound))
  let holds : Bool := match condition.map (Source.cell bound) with
    | [left, right] => left.comparesEqual right
    | _ => true
  if holds ∧ admitted then
    return [(s.columns.map ResultColumn.name).zip (columns.map (Source.cell bound))]
  else return []

end Selection

end SqlStatement
