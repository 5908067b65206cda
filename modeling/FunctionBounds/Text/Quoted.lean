import FunctionBounds.Text.Number
import FunctionBounds.Text.Printable

/-!
# Quoted text

A text between quotes, in which every character that is not printable is written as an escape.

* `quote`: the quote that a text gets.
* `quoted`: the text between quotes.
-/

namespace FunctionBounds.Text

/-- Single quotes, or double ones if the text has a single quote and no double one. -/
def quote (s : String) : Char :=
  if s.toList.contains '\x27' && !s.toList.contains '\x22' then '\x22' else '\x27'

/-- How a character stands between quotes. -/
def quotedChar (quote c : Char) : String :=
  let n := c.toNat
  if c == quote || c == '\\' then String.ofList ['\\', c]
  else if c == '\n' then "\\n"
  else if c == '\r' then "\\r"
  else if c == '\t' then "\\t"
  else if isPrintable c then c.toString
  else if n < 0x100 then "\\x" ++ hexField 2 n
  else if n < 0x10000 then "\\u" ++ hexField 4 n
  else "\\U" ++ hexField 8 n

/-- The text between quotes. -/
def quoted (s : String) : String :=
  let q := quote s
  q.toString ++ String.join (s.toList.map (quotedChar q)) ++ q.toString

end FunctionBounds.Text
