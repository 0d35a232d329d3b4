import LoadProbe.Yaml.Property
import LoadProbe.Yaml.Scalar

/-!
# Tokens of YAML

The tokens of a text, among them those that only indentation shows: where a block begins, where a
key begins, and where a block ends.

Whether something is a key is known only at its colon.  So a token at which a key may begin is
remembered as such, and once the colon comes the place is noted; the tokens that begin the key are
put in when all others are known.

* `Yaml.Outline` says where the reading of tokens stands.
* `Yaml.Outline.token?` reads one token.
* `Yaml.tokens?` reads all tokens of a text.
-/

namespace LoadProbe.Yaml

/-- A token. -/
inductive Token where
  | directive
  | documentStart
  | documentEnd
  | sequenceStart
  | mappingStart
  | blockEnd
  | listOpen
  | listClose
  | tableOpen
  | tableClose
  | item
  | comma
  | key
  | colon
  | alias (name : String)
  | anchor (name : String)
  | tag (tag : Tag)
  /-- The text of a scalar, and whether it is written plainly. -/
  | scalar (plain : Bool) (text : String)
deriving DecidableEq, Inhabited

/-- A token at which a key may begin: how many tokens stand before it, and its place. -/
structure KeyStart where
  token : Nat
  index : Nat
  line : Nat
  column : Nat
  /-- Whether it has to be a key. -/
  required : Bool

/-- Where the reading of tokens stands. -/
structure Outline where
  cursor : Cursor
  tokens : Array Token := #[]
  /-- The tokens at which a key was found to begin, and whether a mapping begins with it. -/
  keys : List (Nat × Bool) := []
  /-- The columns of the blocks around this place, the innermost first. -/
  columns : List Nat := []
  /-- Whether a key may begin here. -/
  keyAllowed : Bool := true
  /-- Where a key may have begun within the innermost brackets. -/
  start : Option KeyStart := none
  /-- The same for the brackets further out; there is one more of these than there are brackets. -/
  outer : List (Option KeyStart) := []
  /-- Where the last quoted scalar ended. -/
  quoteEnd : Nat := 0

namespace Outline

/-- Whether the place is between brackets. -/
def inFlow (s : Outline) : Bool := !s.outer.isEmpty

/-- Adds a token behind which the text goes on at the given place. -/
def push (token : Token) (cursor : Cursor) (s : Outline) : Outline :=
  { s with tokens := s.tokens.push token, cursor }

/-! ### Blocks -/

/-- Ends all blocks whose columns do not satisfy `stays`.  Brackets keep the blocks around them. -/
def closeBlocks (stays : Nat → Bool) (s : Outline) : Outline :=
  if s.inFlow then s
  else
    let closed := s.columns.takeWhile (!stays ·)
    { s with
      tokens := s.tokens ++ Array.replicate closed.length Token.blockEnd
      columns := s.columns.drop closed.length }

/-- Whether something in the given column begins a block: it stands further to the right than the
innermost one. -/
def opensBlock (column : Nat) (s : Outline) : Bool :=
  !s.inFlow && s.columns.head?.all (· < column)

/-- Begins a block in the column of the next character, unless it belongs to one there already. -/
def openBlock (token : Token) (s : Outline) : Outline :=
  let column := s.cursor.column
  if s.opensBlock column then
    { s with tokens := s.tokens.push token, columns := column :: s.columns }
  else s

/-! ### Keys -/

/-- No key began where one may have begun. -/
def dropStart? (s : Outline) : Option Outline :=
  if s.start.any (·.required) then none else some { s with start := none }

/-- Remembers the next token as one at which a key may begin. -/
def saveStart? (s : Outline) : Option Outline :=
  if s.keyAllowed then do
    let s ← s.dropStart?
    let c := s.cursor
    return { s with
      start := some {
        token := s.tokens.size
        index := c.index
        line := c.line
        column := c.column
        required := s.inFlow && s.columns.head? = some c.column } }
  else some s

/-- What is left of the beginning of a key: a key has one line and at most 1024 characters. -/
def expireStart? (c : Cursor) : Option KeyStart → Option (Option KeyStart)
  | none => some none
  | some start =>
      if start.line < c.line || start.index + 1024 < c.index then
        if start.required then none else some none
      else some (some start)

/-- Forgets the beginnings of keys that are too far away. -/
def expire? (s : Outline) : Option Outline := do
  return { s with
    start := ← expireStart? s.cursor s.start
    outer := ← s.outer.mapM (expireStart? s.cursor) }

/-! ### From token to token -/

/-- Goes over spaces, comments and line breaks, and over tabs where no key may begin.  Behind a line
break a key may begin. -/
def blanks (inFlow : Bool) : Nat → Bool → Cursor → Bool × Cursor
  | 0, keyAllowed, c => (keyAllowed, c)
  | fuel + 1, keyAllowed, c =>
      match c.rest with
      | [] => (keyAllowed, c)
      | x :: _ =>
          if x = ' ' || (x = '\t' && (inFlow || !keyAllowed)) then
            blanks inFlow fuel keyAllowed c.next
          else if isBreak x then blanks inFlow fuel (keyAllowed || !inFlow) c.dropBreak
          else if x = '#' then blanks inFlow fuel keyAllowed c.dropComment
          else (keyAllowed, c)

/-- Goes to the next token, and ends the blocks that it does not belong to. -/
def advance? (s : Outline) : Option Outline := do
  let (keyAllowed, cursor) := blanks s.inFlow s.cursor.rest.length s.keyAllowed s.cursor
  let s ← expire? { s with keyAllowed, cursor }
  return s.closeBlocks (· ≤ cursor.column)

/-- Ends all blocks, and no key begins here. -/
def endBlocks? (s : Outline) : Option Outline := do
  let s ← (s.closeBlocks fun _ => false).dropStart?
  return { s with keyAllowed := false }

/-- A directive. -/
def readDirective? (s : Outline) : Option Outline := do
  let s ← s.endBlocks?
  return s.push .directive (← directive? s.cursor.next)

/-- A mark between documents. -/
def readDocumentMark? (token : Token) (s : Outline) : Option Outline := do
  let s ← s.endBlocks?
  return s.push token (s.cursor.drop 3)

/-- An opening bracket. -/
def readOpen? (token : Token) (s : Outline) : Option Outline := do
  let s ← s.saveStart?
  if 255 ≤ s.outer.length then none
  else return { s.push token s.cursor.next with
    start := none
    outer := s.start :: s.outer
    keyAllowed := true }

/-- A closing bracket. -/
def readClose? (token : Token) (s : Outline) : Option Outline := do
  let s ← s.dropStart?
  let s := match s.outer with
    | start :: outer => { s with start, outer }
    | [] => s
  return { s.push token s.cursor.next with keyAllowed := false }

/-- A comma. -/
def readComma? (s : Outline) : Option Outline := do
  let s ← s.dropStart?
  return { s.push .comma s.cursor.next with keyAllowed := true }

/-- The mark of an item, only outside of brackets and where a key could begin. -/
def readItem? (s : Outline) : Option Outline :=
  if s.inFlow || !s.keyAllowed then none
  else do
    let s ← (s.openBlock .sequenceStart).dropStart?
    return { s.push .item s.cursor.next with keyAllowed := true }

/-- The mark of a key. -/
def readKey? (s : Outline) : Option Outline :=
  if !s.inFlow && !s.keyAllowed then none
  else do
    let s ← (s.openBlock .mappingStart).dropStart?
    return { s.push .key s.cursor.next with keyAllowed := !s.inFlow }

/-- A colon.  It makes a key of what began where a key may have begun; else what stands before it
was marked as a key, or is missing. -/
def readColon? (s : Outline) : Option Outline :=
  match s.start with
  | some start =>
      let opens := s.opensBlock start.column
      let s := { s with
        keys := (start.token, opens) :: s.keys
        columns := if opens then start.column :: s.columns else s.columns
        start := none
        keyAllowed := false }
      some (s.push .colon s.cursor.next)
  | none =>
      if !s.inFlow && !s.keyAllowed then none
      else
        let s := s.openBlock .mappingStart
        some { s.push .colon s.cursor.next with keyAllowed := !s.inFlow }

/-- An anchor or an alias. -/
def readName? (token : String → Token) (s : Outline) : Option Outline := do
  let s ← s.saveStart?
  let (name, cursor) ← name? s.cursor.next
  return { s.push (token name) cursor with keyAllowed := false }

/-- A tag. -/
def readTag? (s : Outline) : Option Outline := do
  let s ← s.saveStart?
  let (tag, cursor) ← tag? s.cursor
  return { s.push (.tag tag) cursor with keyAllowed := false }

/-- A block scalar, behind which a key may begin. -/
def readBlock? (literal : Bool) (s : Outline) : Option Outline := do
  let s ← s.saveStart?
  let (text, cursor) ← block? literal s.columns.head? s.cursor.next
  return { s.push (.scalar false text) cursor with keyAllowed := true }

/-- A quoted scalar. -/
def readQuoted? (s : Outline) : Option Outline := do
  let s ← s.saveStart?
  let (text, cursor) ← quoted? s.cursor
  return { s.push (.scalar false text) cursor with keyAllowed := false, quoteEnd := cursor.index }

/-- A plain scalar.  If it ends behind a line break, a key may begin there. -/
def readPlain? (s : Outline) : Option Outline := do
  let s ← s.saveStart?
  let (text, lines, cursor) ← plain? s.inFlow (s.columns.head?.elim 0 (· + 1)) s.cursor
  return { s.push (.scalar true text) cursor with keyAllowed := lines }

/-- Reads the token that comes next. -/
def token? (s : Outline) : Option Outline :=
  let c := s.cursor
  match c.rest with
  | [] => some s
  | x :: rest =>
      if x = '%' && c.column = 0 then s.readDirective?
      else if c.atMark '-' then s.readDocumentMark? .documentStart
      else if c.atMark '.' then s.readDocumentMark? .documentEnd
      else if x = '[' then s.readOpen? .listOpen
      else if x = '\x7b' then s.readOpen? .tableOpen
      else if x = ']' then s.readClose? .listClose
      else if x = '\x7d' then s.readClose? .tableClose
      else if x = ',' then s.readComma?
      else if x = '-' && atBlank rest then s.readItem?
      else if x = '?' && atBlank rest then s.readKey?
      else if x = ':' && (atBlank rest
          || (s.inFlow && (rest.head?.any isFlowMark || c.index = s.quoteEnd))) then s.readColon?
      else if x = '*' then s.readName? .alias
      else if x = '&' then s.readName? .anchor
      else if x = '!' then s.readTag?
      else if x = '|' && !s.inFlow then s.readBlock? true
      else if x = '>' && !s.inFlow then s.readBlock? false
      else if x = '\'' || x = '"' then s.readQuoted?
      else if x = '%' || x = '@' || x = '\x60' then none
      else s.readPlain?

/-- Reads all tokens up to the end of the text. -/
def tokens? : Nat → Outline → Option Outline
  | 0, _ => none
  | fuel + 1, s => do
      let s ← s.advance?
      if s.cursor.rest.isEmpty then s.endBlocks? else tokens? fuel (← s.token?)

/-- Puts in the tokens that begin keys; `place` tokens stand before those in the list. -/
def withKeys (keys : List (Nat × Bool)) (place : Nat) : List Token → List Token
  | [] => []
  | token :: tokens =>
      let begun := match keys.lookup place with
        | some opens => if opens then [Token.mappingStart, .key] else [.key]
        | none => []
      begun ++ token :: withKeys keys (place + 1) tokens

end Outline

/-- The tokens of a text. -/
def tokens? (text : String) : Option (List Token) :=
  let cursor := Cursor.ofText text
  (Outline.tokens? (cursor.rest.length + 1) { cursor }).map fun s =>
    Outline.withKeys s.keys 0 s.tokens.toList

end LoadProbe.Yaml
