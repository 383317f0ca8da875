/-!
# Identifiers

An identifier without quotes is one word. It starts with a letter, an underscore or a character
beyond ASCII, and goes on with any of these, digits and `$`.
-/

namespace SqlStatement

namespace Identifier

def starts (c : Char) : Bool := c.isAlpha || c = '_' || decide (0x80 ≤ c.toNat)

def continues (c : Char) : Bool := starts c || c.isDigit || c = '$'

end Identifier

def IsIdentifier (word : String) : Prop :=
  ∃ c rest, word.toList = c :: rest ∧ Identifier.starts c = true ∧
    rest.all Identifier.continues = true

end SqlStatement
