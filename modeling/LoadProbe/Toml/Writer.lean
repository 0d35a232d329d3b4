import LoadProbe.Binary64.Notation
import LoadProbe.Word

/-!
# Writing TOML

A document of sections, each a title and lines of the form `key = value`.

* `Toml.styleOf` chooses, of the four ways to quote a text, the first that shows it unchanged.
* `Toml.Document.write?` writes a document, unless an integer in it is too large for the format.
-/

namespace LoadProbe.Toml

/-- A value that is no collection. -/
inductive Scalar where
  | text (s : String)
  | integer (n : Nat)
  | float (x : Binary64)
  | bool (b : Bool)
deriving DecidableEq, Inhabited

/-- The ways to quote a text. -/
inductive Style where
  /-- Within double quotes, with escapes. -/
  | basic
  /-- Within single quotes, as it is. -/
  | literal
  /-- Within triple double quotes, with escapes, over several lines. -/
  | basicLines
  /-- Within triple single quotes, as it is, over several lines. -/
  | literalLines
deriving DecidableEq, Inhabited

/-- The length of the longest run of a character. -/
def longestRun (c : Char) (cs : List Char) : Nat :=
  (cs.foldl (fun (longest, current) x =>
    if x = c then (max longest (current + 1), current + 1) else (longest, 0)) (0, 0)).1

/-- Whether a character is shown by its code or a letter in every style that has escapes, and not
at all in the others. -/
def isControl (c : Char) : Bool :=
  (c.toNat < 0x20 && c ≠ '\t' && c ≠ '\n') || c.toNat = 0x7f

/-- The style for a text: the first that needs no escapes, or else the one that fits its lines. -/
def styleOf (cs : List Char) : Style :=
  let controls := cs.any isControl
  let lines := cs.contains '\n'
  let escapes := controls || cs.contains '\\'
  if !escapes && !lines && !cs.contains '"' then .basic
  else if !controls && !lines && !cs.contains '\'' then .literal
  else if !escapes && longestRun '"' cs ≤ 2 then .basicLines
  else if !controls && longestRun '\'' cs ≤ 2 then .literalLines
  else if lines then .basicLines
  else .basic

/-- What quotes a text in a style, on both sides. -/
def Style.delimiter : Style → List Char
  | basic => ['"']
  | literal => ['\'']
  | basicLines => ['"', '"', '"']
  | literalLines => ['\'', '\'', '\'']

/-- How a character other than a double quote is shown where escapes count. -/
def escaped (lines : Bool) (c : Char) : List Char :=
  if c = '\x08' then ['\\', 'b']
  else if c = '\t' then ['\\', 't']
  else if c = '\n' then (if lines then ['\n'] else ['\\', 'n'])
  else if c = '\x0c' then ['\\', 'f']
  else if c = '\r' then ['\\', 'r']
  else if c = '\\' then ['\\', '\\']
  else if isControl c then '\\' :: 'u' :: (Text.hex 4 c.toNat).toList.map Char.toUpper
  else [c]

/-- A text where escapes count.  Over several lines two double quotes may follow each other; `run`
of them have just been written. -/
def escapedText (lines : Bool) (run : Nat) : List Char → List Char
  | [] => []
  | c :: cs =>
      if c = '"' then
        if lines && run < 2 then '"' :: escapedText lines (run + 1) cs
        else '\\' :: '"' :: escapedText lines 0 cs
      else escaped lines c ++ escapedText lines 0 cs

/-- A quoted text in a style. -/
def quotedAs (style : Style) (cs : List Char) : List Char :=
  let body := match style with
    | .basic => escapedText false 0 cs
    | .basicLines => escapedText true 0 cs
    | .literal | .literalLines => cs
  let opening := match style with
    | .basicLines | .literalLines => if cs.contains '\n' then ['\n'] else []
    | .basic | .literal => []
  style.delimiter ++ opening ++ body ++ style.delimiter

/-- A quoted text. -/
def quoted (text : String) : String :=
  String.ofList (quotedAs (styleOf text.toList) text.toList)

/-- How TOML spells floating-point numbers. -/
def notationOfFloats : Binary64.Notation where
  positional _ := true
  wholeMark := ".0"
  nan := "nan"

/-- The text of a value; integers have one only below 2⁶³. -/
def Scalar.write? : Scalar → Option String
  | text s => some (quoted s)
  | integer n => if n < Word.signedLimit64 then some (Text.decimal n) else none
  | float x => some (notationOfFloats.spell x)
  | bool b => some (if b then "true" else "false")

/-- The title of a section and what it sets. -/
structure Section where
  title : String
  entries : List (String × Scalar)
deriving DecidableEq, Inhabited

/-- The sections of a document. -/
abbrev Document : Type := List Section

/-- The line that sets a value. -/
def entryLine? (entry : String × Scalar) : Option String :=
  entry.2.write?.map fun value => entry.1 ++ " = " ++ value ++ "\n"

/-- The lines of a section. -/
def Section.write? (s : Section) : Option String :=
  (s.entries.mapM entryLine?).map fun lines => "[" ++ s.title ++ "]\n" ++ String.join lines

/-- The text of a document, its sections apart by empty lines. -/
def Document.write? (d : Document) : Option String :=
  (d.mapM Section.write?).map ("\n".intercalate ·)

end LoadProbe.Toml
