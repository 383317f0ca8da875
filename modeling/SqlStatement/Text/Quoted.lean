import SqlStatement.Text.Unprintable
import SqlStatement.Text.GraphemeExtend
import SqlStatement.Text.Hex

/-!
# Quoted text in messages

A message shows a text between double quotes. `Text.quoted` writes a quote, a backslash and four
controls with a backslash, and every other character that would not be seen on its own by its
code point in braces; the rest stands as it is.
-/

namespace SqlStatement.Text

def quotedChar (c : Char) : String :=
  match c with
  | '"' => "\\\""
  | '\\' => "\\\\"
  | '\n' => "\\n"
  | '\r' => "\\r"
  | '\t' => "\\t"
  | '\x00' => "\\0"
  | c =>
    if graphemeExtend.contains c || unprintable.contains c then
      "\\u\x7b" ++ hexDigits c.toNat ++ "\x7d"
    else c.toString

def quoted (s : String) : String :=
  "\"" ++ String.join (s.toList.map quotedChar) ++ "\""

end SqlStatement.Text
