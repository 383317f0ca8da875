import SqlStatement.Decode.Basic

/-!
# Reading one of several named variants

A variant without content is given by its name alone, or as an object whose one member is
`null` under that name. A variant with content is an object whose one member holds the content
under the variant's name.
-/

namespace SqlStatement

inductive Content (α : Type) where
  | nothing (value : α)
  | value (read : Json → Except DecodeError α)

structure Variant (α : Type) where
  name : String
  content : Content α

namespace Variant

variable {α : Type}

def plain (name : String) (value : α) : Variant α := ⟨name, .nothing value⟩

def holding {β : Type} [Decode β] (name : String) (make : β → α) : Variant α :=
  ⟨name, .value fun json => (decode json).map make⟩

def select (variants : List (Variant α)) (name : String) : Except DecodeError (Content α) :=
  match variants.find? fun variant => variant.name == name with
  | some variant => .ok variant.content
  | none => .error (.unknownVariant name (variants.map Variant.name))

def readName (content : Content α) : Except DecodeError α :=
  match content with
  | .nothing value => .ok value
  | .value _ => .error (.invalidType .unitVariant .variantWithContent)

def readContent (content : Content α) (json : Json) : Except DecodeError α :=
  match content, json with
  | .nothing value, .null => .ok value
  | .nothing _, json => Decode.wrongType json .unit
  | .value read, json => read json

def read (variants : List (Variant α)) : Json → Except DecodeError α
  | .str name => select variants name >>= readName
  | .obj members =>
    match Members.ofList members with
    | [(name, json)] => select variants name >>= fun content => readContent content json
    | _ => .error (.invalidValue .map .singleKeyMap)
  | json => Decode.wrongType json .textOrMap

end Variant

end SqlStatement
