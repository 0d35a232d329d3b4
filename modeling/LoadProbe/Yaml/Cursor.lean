/-!
# Places in a YAML text

Lines and columns carry structure in YAML, so a text is read through a cursor that counts them.

* `Yaml.Cursor` is a place in a text, with what follows it.
* `Yaml.Cursor.next` and `Yaml.Cursor.dropBreak` go over one character and over one line break.
* `Yaml.atBlank` and `Yaml.atLineEnd` say what comes next.
-/

namespace LoadProbe.Yaml

/-- A place in a text: what follows, the number of characters before, and the line and the column.
Only a line feed begins a new column count. -/
structure Cursor where
  rest : List Char
  index : Nat := 0
  line : Nat := 0
  column : Nat := 0

/-- Whether the character is a space or a tab. -/
def isBlank (c : Char) : Bool := c = ' ' || c = '\t'

/-- Whether the character ends a line. -/
def isBreak (c : Char) : Bool := c = '\n' || c = '\r'

/-- Whether the character belongs to the marks of collections in brackets. -/
def isFlowMark (c : Char) : Bool := [',', '[', ']', '\x7b', '\x7d'].contains c

/-- Whether a line break or the end of the text comes next. -/
def atLineEnd (cs : List Char) : Bool := cs.head?.all isBreak

/-- Whether a blank, a line break or the end of the text comes next. -/
def atBlank (cs : List Char) : Bool := cs.head?.all fun c => isBlank c || isBreak c

namespace Cursor

/-- The beginning of a text.  A NUL ends it. -/
def ofText (text : String) : Cursor := { rest := text.toList.takeWhile (· ≠ '\x00') }

/-- Goes over the next character. -/
def next (c : Cursor) : Cursor :=
  match c.rest with
  | [] => c
  | '\n' :: rest => { rest, index := c.index + 1, line := c.line + 1, column := 0 }
  | _ :: rest => { c with rest, index := c.index + 1, column := c.column + 1 }

/-- Goes over the next `n` characters. -/
def drop : Nat → Cursor → Cursor
  | 0, c => c
  | n + 1, c => drop n c.next

/-- Goes over all characters up to the first that does not satisfy `p`. -/
def dropWhile (p : Char → Bool) (c : Cursor) : Cursor := c.drop (c.rest.takeWhile p).length

/-- Goes over the next line break, if one comes next. -/
def dropBreak (c : Cursor) : Cursor :=
  match c.rest with
  | '\r' :: '\n' :: _ => c.drop 2
  | '\r' :: _ | '\n' :: _ => c.next
  | _ => c

/-- Goes over a comment up to the end of its line, if one comes next. -/
def dropComment (c : Cursor) : Cursor :=
  if c.rest.head? = some '#' then c.dropWhile (!isBreak ·) else c

/-- Whether a line comes next that begins with the given character three times, and nothing more in
the same word. -/
def atMark (mark : Char) (c : Cursor) : Bool :=
  match c.rest with
  | x :: y :: z :: rest => c.column = 0 && x = mark && y = mark && z = mark && atBlank rest
  | _ => false

/-- Whether a mark between documents comes next. -/
def atDocumentMark (c : Cursor) : Bool := c.atMark '-' || c.atMark '.'

end Cursor

end LoadProbe.Yaml
