import LoadProbe.Binary64.Notation
import LoadProbe.Json.Value

/-!
# Writing JSON text

* `Json.Value.compact` writes a value without any blanks.
* `Json.Value.pretty` writes it over several lines, each level indented by two spaces.
-/

namespace LoadProbe.Json

/-- How JSON spells floating-point numbers. -/
def notationOfFloats : Binary64.Notation where
  positional exponent := -5 ≤ exponent ∧ exponent ≤ 15
  wholeMark := ".0"

/-- How a string shows one character. -/
def escape (c : Char) : String :=
  if c = '"' then "\\\""
  else if c = '\\' then "\\\\"
  else if c = '\n' then "\\n"
  else if c = '\r' then "\\r"
  else if c = '\t' then "\\t"
  else if c = '\x08' then "\\b"
  else if c = '\x0c' then "\\f"
  else if c.toNat < 0x20 then "\\u" ++ Text.hex 4 c.toNat
  else c.toString

/-- A text as a JSON string. -/
def quote (text : String) : String :=
  "\"" ++ String.join (text.toList.map escape) ++ "\""

/-- A floating-point number as JSON text; what is not finite has none and becomes `null`. -/
def floatText (x : Binary64) : String :=
  if x.isFinite then notationOfFloats.spell x else "null"

mutual

/-- The text of a value without blanks. -/
def Value.compact : Value → String
  | .null => "null"
  | .bool b => if b then "true" else "false"
  | .integer n => Text.integer n
  | .float x => floatText x
  | .string s => quote s
  | .array items => "[" ++ ",".intercalate (compactItems items) ++ "]"
  | .object members => "\x7b" ++ ",".intercalate (compactMembers members) ++ "\x7d"

/-- The texts of the items of an array. -/
def compactItems : List Value → List String
  | [] => []
  | v :: vs => v.compact :: compactItems vs

/-- The texts of the members of an object. -/
def compactMembers : List (String × Value) → List String
  | [] => []
  | (key, v) :: members => (quote key ++ ":" ++ v.compact) :: compactMembers members

end

/-- The lines of a bracketed list whose entries stand at the given indent. -/
def bracketed (opening closing : String) (indent : String) (entries : List String) : String :=
  if entries.isEmpty then opening ++ closing
  else
    opening ++ "\n" ++ ",\n".intercalate (entries.map fun e => indent ++ "  " ++ e)
      ++ "\n" ++ indent ++ closing

mutual

/-- The text of a value over several lines; the lines after the first start with `indent`. -/
def Value.prettyAt (indent : String) : Value → String
  | .array items => bracketed "[" "]" indent (prettyItems (indent ++ "  ") items)
  | .object members => bracketed "\x7b" "\x7d" indent (prettyMembers (indent ++ "  ") members)
  | v => v.compact

/-- The texts of the items of an array. -/
def prettyItems (indent : String) : List Value → List String
  | [] => []
  | v :: vs => v.prettyAt indent :: prettyItems indent vs

/-- The texts of the members of an object. -/
def prettyMembers (indent : String) : List (String × Value) → List String
  | [] => []
  | (key, v) :: members =>
      (quote key ++ ": " ++ v.prettyAt indent) :: prettyMembers indent members

end

/-- The text of a value over several lines. -/
def Value.pretty (v : Value) : String := v.prettyAt ""

end LoadProbe.Json
