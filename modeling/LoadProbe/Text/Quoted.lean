import LoadProbe.Text.Digits
import LoadProbe.Text.Printable

/-!
# Quoted text

A text between double quotes in which nothing invisible is left: used in messages, where a text
from outside must stay recognisable.

* `Text.quoted` writes a text, `Text.quotedOption` a text that may be absent.
-/

namespace LoadProbe.Text

/-- How a quoted text shows one character. -/
def escapeQuoted (c : Char) : String :=
  if c = '"' then "\\\""
  else if c = '\\' then "\\\\"
  else if c = '\t' then "\\t"
  else if c = '\n' then "\\n"
  else if c = '\r' then "\\r"
  else if c.toNat = 0 then "\\0"
  else if isPrintable c then c.toString
  else "\\u\x7b" ++ hex 1 c.toNat ++ "\x7d"

/-- The text between double quotes, its characters escaped where needed. -/
def quoted (text : String) : String :=
  "\"" ++ String.join (text.toList.map escapeQuoted) ++ "\""

/-- A text that may be absent: `Some("…")` or `None`. -/
def quotedOption : Option String → String
  | some text => "Some(" ++ quoted text ++ ")"
  | none => "None"

end LoadProbe.Text
