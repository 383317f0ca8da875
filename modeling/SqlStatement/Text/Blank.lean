import SqlStatement.Text.CodePointRange

/-!
# Blank text

The characters with the property White_Space, texts made of nothing else (`isBlank`), and texts
without them at both ends (`trim`).
-/

namespace SqlStatement.Text

/-- The characters with the property White_Space. -/
def whiteSpace : CodePointRanges :=
  [(0x9, 0xd), (0x20, 0x20), (0x85, 0x85), (0xa0, 0xa0), (0x1680, 0x1680), (0x2000, 0x200a),
   (0x2028, 0x2029), (0x202f, 0x202f), (0x205f, 0x205f), (0x3000, 0x3000)]

def isBlank (s : String) : Bool := s.toList.all whiteSpace.contains

def trim (s : String) : String :=
  let front := s.toList.dropWhile whiteSpace.contains
  String.ofList (front.reverse.dropWhile whiteSpace.contains).reverse

end SqlStatement.Text
