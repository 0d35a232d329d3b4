import LoadProbe.Text.Digits
import LoadProbe.Yaml.Cursor

/-!
# Anchors, tags and directives

What stands before a node or a document: anchors give a node a name, tags say what a scalar means,
and directives are about a whole document.

* `Yaml.name?` reads the name of an anchor, `Yaml.tag?` a tag.
* `Yaml.directive?` goes over a directive.
-/

namespace LoadProbe.Yaml

open LoadProbe.Text

/-- Whether a name may have the character. -/
def isNameCharacter (c : Char) : Bool := c.isAlphanum || c = '_' || c = '-'

/-- The name of an anchor or of the anchor that an alias refers to, after its mark. -/
def name? (c : Cursor) : Option (String × Cursor) :=
  let name := c.rest.takeWhile isNameCharacter
  let rest := c.rest.drop name.length
  let follows :=
    atBlank rest || rest.head?.any (['?', ':', ',', ']', '\x7d', '%', '@', '\x60'].contains ·)
  if name.isEmpty || !follows then none else some (String.ofList name, c.drop name.length)

/-! ### Tags -/

/-- A tag: the handle of a family of tags, and the tag's own text. -/
structure Tag where
  handle : String
  suffix : String
deriving DecidableEq, Inhabited

/-- Whether a tag may have the character as it is. -/
def isTagCharacter (c : Char) : Bool :=
  isNameCharacter c
    || [';', '/', '?', ':', '@', '&', '=', '+', '$', ',', '.', '!', '~', '*', '\'', '(', ')', '[',
      ']'].contains c

/-- The byte that a percent sign and two hexadecimal digits spell. -/
def percentByte? : List Char → Option Nat
  | '%' :: a :: b :: _ => do return 16 * (← digitValue? 16 a) + (← digitValue? 16 b)
  | _ => none

/-- How many bytes a character has whose first byte is given. -/
def byteCount? (byte : Nat) : Option Nat :=
  if byte < 0x80 then some 1
  else if 0xc0 ≤ byte && byte < 0xe0 then some 2
  else if 0xe0 ≤ byte && byte < 0xf0 then some 3
  else if 0xf0 ≤ byte && byte < 0xf8 then some 4
  else none

/-- The number that bytes after the first make with it, each one shifting what was before by eight
bits. -/
def moreBytes? : Nat → Nat → Cursor → Option (Nat × Cursor)
  | 0, code, c => some (code, c)
  | count + 1, code, c => do
      let byte ← percentByte? c.rest
      if 0x80 ≤ byte && byte < 0xc0 then moreBytes? count (256 * code + byte) (c.drop 3) else none

/-- The character that percent signs with hexadecimal digits spell. -/
def percentCharacter? (c : Cursor) : Option (Char × Cursor) := do
  let first ← percentByte? c.rest
  let count ← byteCount? first
  let (code, c) ← moreBytes? (count - 1) first (c.drop 3)
  if h : code.isValidChar then some (Char.ofNatAux code h, c) else none

/-- The text of a tag. -/
def tagText? : Nat → Cursor → Option (List Char × Cursor)
  | 0, c => some ([], c)
  | fuel + 1, c =>
      match c.rest with
      | x :: _ =>
          if x = '%' then do
            let (d, c) ← percentCharacter? c
            let (text, c) ← tagText? fuel c
            return (d :: text, c)
          else if isTagCharacter x then
            (tagText? fuel c.next).map fun (text, c) => (x :: text, c)
          else some ([], c)
      | [] => some ([], c)

/-- The text of a tag, which is not empty. -/
def wholeTagText? (c : Cursor) : Option (List Char × Cursor) :=
  (tagText? c.rest.length c).filter fun (text, _) => !text.isEmpty

/-- The handle of a family of tags, or what could have become one: an exclamation mark with the
name characters after it, and another mark if there is one. -/
def tagHandle? (c : Cursor) : Option (List Char × Cursor) :=
  match c.rest with
  | '!' :: rest =>
      let name := rest.takeWhile isNameCharacter
      let c := c.drop (name.length + 1)
      if c.rest.head? = some '!' then some ('!' :: name ++ ['!'], c.next) else some ('!' :: name, c)
  | _ => none

/-- Whether a text that starts with an exclamation mark also ends with another one. -/
def isHandle (text : List Char) : Bool := 2 ≤ text.length && text.getLast? = some '!'

/-- A tag with what it consists of in angle brackets, or with a handle, or with none. -/
def tagBody? (c : Cursor) : Option (Tag × Cursor) :=
  if (c.rest.drop 1).head? = some '<' then do
    let (text, c) ← wholeTagText? (c.drop 2)
    if c.rest.head? = some '>' then some (⟨"", String.ofList text⟩, c.next) else none
  else do
    let (handle, c) ← tagHandle? c
    if isHandle handle then
      let (text, c) ← wholeTagText? c
      return (⟨String.ofList handle, String.ofList text⟩, c)
    else
      let (text, c) ← tagText? c.rest.length c
      let suffix := handle.drop 1 ++ text
      return (if suffix.isEmpty then ⟨"", "!"⟩ else ⟨"!", String.ofList suffix⟩, c)

/-- A tag, which is a word of its own. -/
def tag? (c : Cursor) : Option (Tag × Cursor) :=
  (tagBody? c).filter fun (_, c) => atBlank c.rest

/-! ### Directives -/

/-- Goes over a number of at most nine digits. -/
def versionNumber? (c : Cursor) : Option Cursor :=
  let count := (c.rest.takeWhile Char.isDigit).length
  if 1 ≤ count && count ≤ 9 then some (c.drop count) else none

/-- Goes over two numbers with a dot between them. -/
def version? (c : Cursor) : Option Cursor := do
  let c ← versionNumber? c
  if c.rest.head? = some '.' then versionNumber? c.next else none

/-- Goes over the handle of a family of tags and the text that it stands for. -/
def tagFamily? (c : Cursor) : Option Cursor := do
  let (handle, c) ← tagHandle? c
  if handle = ['!'] || isHandle handle then
    let (_, c) ← wholeTagText? (c.dropWhile isBlank)
    if atBlank c.rest then some c else none
  else none

/-- Goes over the line of a directive, after its mark.  A directive with an unknown name may say
anything. -/
def directive? (c : Cursor) : Option Cursor := do
  let name := c.rest.takeWhile isNameCharacter
  let c := c.drop name.length
  if name.isEmpty || !atBlank c.rest then none
  else
    let c ← match String.ofList name with
      | "YAML" => version? (c.dropWhile isBlank)
      | "TAG" => tagFamily? (c.dropWhile isBlank)
      | _ => some (c.dropWhile (!isBreak ·))
    let c := (c.dropWhile isBlank).dropComment
    if atLineEnd c.rest then some c.dropBreak else none

end LoadProbe.Yaml
