/-!
# A text inside a text

`occursIn part text` tests whether one list of characters is a contiguous part of another
(`occursIn_iff`).
-/

namespace SqlStatement.Text

def occursIn (part : List Char) : List Char → Bool
  | [] => part.isEmpty
  | c :: rest => part.isPrefixOf (c :: rest) || occursIn part rest

theorem occursIn_iff (part text : List Char) : occursIn part text = true ↔ part <:+: text := by
  induction text with
  | nil => simp [occursIn]
  | cons c rest ih => simp [occursIn, ih, List.infix_cons_iff]

def mentions (text part : String) : Bool := occursIn part.toList text.toList

end SqlStatement.Text
