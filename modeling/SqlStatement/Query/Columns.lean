/-!
# Lists of column names

`ToColumns` are the types that a caller can give a list of column or field names in: a single name,
a list, an array, a part of an array, a vector, or a pair of such things. Names are taken as they
are, so that `*` and aliases pass through.
-/

namespace SqlStatement

class ToColumns (α : Type) where
  toColumns : α → List String

export ToColumns (toColumns)

instance : ToColumns String := ⟨fun name => [name]⟩

instance : ToColumns (List String) := ⟨id⟩

instance : ToColumns (Array String) := ⟨Array.toList⟩

instance : ToColumns (Subarray String) := ⟨fun names => names.toArray.toList⟩

instance {n : Nat} : ToColumns (Vector String n) := ⟨Vector.toList⟩

instance {α β : Type} [ToColumns α] [ToColumns β] : ToColumns (α × β) :=
  ⟨fun names => toColumns names.1 ++ toColumns names.2⟩

end SqlStatement
