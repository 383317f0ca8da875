import SqlStatement.Decode.Basic

/-!
# Reading records

A record is described by its fields in declared order; each field reads its JSON value into an
update of the record. `Field.readMembers` reads an object: it visits the members in ascending
order of their keys, and the first one that fails gives the error. `Field.readElements` reads an
array of the leading fields. `Field.overlay` takes either form and leaves every field that is not
given as it was.
-/

namespace SqlStatement

/-- A field of a record `δ`: its name, and how its value is put into the record. -/
structure Field (δ : Type) where
  name : String
  read : Json → Except DecodeError (δ → δ)

namespace Field

variable {δ : Type}

/-- A field that holds any value of its type. -/
def of {α : Type} [Decode α] (name : String) (put : α → δ → δ) : Field δ where
  name := name
  read json := (decode json).map put

/-- Reads one member of an object into the record. A key that names no field is ignored. -/
def visit (fields : List (Field δ)) (record : δ) (member : String × Json) :
    Except DecodeError δ :=
  match fields.find? fun field => field.name == member.1 with
  | some field => (field.read member.2).map fun update => update record
  | none => .ok record

def readMembers (fields : List (Field δ)) (record : δ) (members : Members Json) :
    Except DecodeError δ :=
  (Members.ofList members).foldlM (visit fields) record

/-- Reads the elements of an array of `length` elements into the leading fields. -/
def readElements (length : Nat) : List (Field δ) → δ → List Json → Except DecodeError δ
  | _, record, [] => .ok record
  | [], _, _ :: _ => .error (.excessElements length)
  | field :: fields, record, json :: rest =>
    match field.read json with
    | .ok update => readElements length fields (update record) rest
    | .error e => .error e

def overlay (name : String) (fields : List (Field δ)) (defaults : δ) :
    Json → Except DecodeError δ
  | .obj members => readMembers fields defaults members
  | .arr elements => readElements elements.length fields defaults elements
  | json => Decode.wrongType json (.record name)

def required {α : Type} (name : String) : Option α → Except DecodeError α
  | some value => .ok value
  | none => .error (.missingField name)

end Field

end SqlStatement
