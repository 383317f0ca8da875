import SqlStatement.Engine.Statement

/-!
# Binding arguments

The engine numbers the variables of a statement: a bare one gets the next number, an indexed one its
index, and a named one the number that its name has, or else the next one. The driver goes through
the numbers from 1 on and decides which argument each of them takes: the one that its name says,
and for a number without a name the next argument that it has not counted in this way. It stops at
the first number for which there is no argument, and what is not bound is null.
-/

namespace SqlStatement

/-- Where the value of an operand comes from. -/
inductive Source where
  | literal (value : Cell)
  /-- The variable of this number. -/
  | number (number : Nat)
  deriving DecidableEq

/-- The numbers that variables have been given. -/
structure Numbers where
  /-- The largest number so far. -/
  count : Nat := 0
  /-- Names of numbers, the first name of each. -/
  names : List (Nat × String) := []
  deriving DecidableEq

namespace Numbers

/-- Gives a name to a number that has none. -/
def addName (numbers : Numbers) (number : Nat) (name : String) : Numbers :=
  { count := max numbers.count number
    names :=
      if (numbers.names.lookup number).isSome then numbers.names
      else numbers.names ++ [(number, name)] }

def assign (numbers : Numbers) (which : Variable) : Except EngineError (Nat × Numbers) :=
  match which with
  | .bare =>
    if numbers.count < maxVariables then
      .ok (numbers.count + 1, { numbers with count := numbers.count + 1 })
    else .error (.badStatement "too many SQL variables")
  | .indexed index =>
    if 1 ≤ index ∧ index ≤ maxVariables then
      .ok (index, numbers.addName index ("?" ++ toString index))
    else .error (.badStatement "variable number must be between ?1 and ?32766")
  | .named name =>
    match numbers.names.find? fun entry => entry.2 == name with
    | some (number, _) => .ok (number, numbers)
    | none =>
      if numbers.count < maxVariables then
        .ok (numbers.count + 1, numbers.addName (numbers.count + 1) name)
      else .error (.badStatement "too many SQL variables")

def assignAll (numbers : Numbers) : List Operand → Except EngineError (List Source × Numbers)
  | [] => .ok ([], numbers)
  | .literal value :: rest => do
    let (sources, numbers) ← numbers.assignAll rest
    return (.literal value :: sources, numbers)
  | .parameter which :: rest => do
    let (number, numbers) ← numbers.assign which
    let (sources, numbers) ← numbers.assignAll rest
    return (.number number :: sources, numbers)

end Numbers

namespace Binding

/-- The index of an argument that a name asks for. -/
def namedIndex (name : String) : Except EngineError Nat :=
  match name.toList with
  | sign :: rest =>
    let digits := rest.takeWhile Char.isDigit
    if sign = '?' ∨ sign = '$' then
      let index := Token.decimalValue digits
      if digits.isEmpty ∨ Marker.indexLimit ≤ index then
        .error (.protocol ("parameters with non-integer names are not currently supported: "
          ++ String.ofList rest))
      else .ok index
    else .error (.protocol ("unsupported SQL parameter format: " ++ name))
  | [] => .error (.protocol ("unsupported SQL parameter format: " ++ name))

/-- The index of the argument that a number takes, and how many numbers without a name there are up
to this one. -/
def indexOf (names : List (Nat × String)) (unnamed number : Nat) : Except EngineError (Nat × Nat) :=
  match names.lookup number with
  | some name => (namedIndex name).map fun index => (index, unnamed)
  | none => .ok (unnamed + 1, unnamed + 1)

/-- Binds the variables with these numbers; `unnamed` of them had no name so far. -/
def bindNumbers (names : List (Nat × String)) (args : List Argument) :
    Nat → List Nat → Except EngineError (List (Nat × Cell))
  | _, [] => .ok []
  | unnamed, number :: rest => do
    let (index, unnamed) ← indexOf names unnamed number
    if index = 0 then .error .workerCrashed
    else
      match args[index - 1]? with
      | some arg => return (number, arg.cell) :: (← bindNumbers names args unnamed rest)
      | none => .ok []

def bind (numbers : Numbers) (args : List Argument) : Except EngineError (List (Nat × Cell)) :=
  bindNumbers numbers.names args 0 ((List.range numbers.count).map (· + 1))

end Binding

end SqlStatement
