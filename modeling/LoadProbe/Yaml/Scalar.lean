import LoadProbe.Text.Digits
import LoadProbe.Yaml.Cursor

/-!
# Texts of YAML scalars

A scalar is written plainly, between quotes, or as a block of lines.  The three have in common that
a single line break between two words is a space.

* `Yaml.plain?`, `Yaml.quoted?` and `Yaml.block?` read the text of a scalar and go behind it.
-/

namespace LoadProbe.Yaml

open LoadProbe.Text

/-- What stands between two words: line breaks with all blanks around them, or blanks. -/
structure Gap where
  breaks : Nat := 0
  blanks : List Char := []

/-- What a gap is in the text of a scalar: its blanks, a space for one line break, or one line break
less than it has. -/
def Gap.text (gap : Gap) : List Char :=
  if gap.breaks = 0 then gap.blanks
  else if gap.breaks = 1 then [' ']
  else List.replicate (gap.breaks - 1) '\n'

/-- Goes over a gap.  Before column `least` of a later line no tab may stand. -/
def gap? (least : Nat) : Nat → Gap → Cursor → Option (Gap × Cursor)
  | 0, gap, c => some (gap, c)
  | fuel + 1, gap, c =>
      match c.rest with
      | [] => some (gap, c)
      | x :: _ =>
          if isBreak x then gap? least fuel { breaks := gap.breaks + 1 } c.dropBreak
          else if isBlank x then
            if gap.breaks = 0 then gap? least fuel { gap with blanks := gap.blanks ++ [x] } c.next
            else if x = '\t' && c.column < least then none
            else gap? least fuel gap c.next
          else some (gap, c)

/-! ### Plain scalars -/

/-- Whether the next character ends a word of a plain scalar. -/
def endsPlainWord (inFlow : Bool) : List Char → Bool
  | [] => true
  | c :: rest =>
      isBlank c || isBreak c
        || (c = ':' && (atBlank rest || (inFlow && rest.head?.any isFlowMark)))
        || (inFlow && isFlowMark c)

/-- The next word of a plain scalar. -/
def plainWord (inFlow : Bool) : List Char → List Char
  | [] => []
  | c :: rest => if endsPlainWord inFlow (c :: rest) then [] else c :: plainWord inFlow rest

/-- The rest of a plain scalar behind a gap, and whether it ends behind a line break. -/
def plainFrom? (inFlow : Bool) (least : Nat) :
    Nat → Gap → Cursor → Option (List Char × Bool × Cursor)
  | 0, gap, c => some ([], 0 < gap.breaks, c)
  | fuel + 1, gap, c =>
      if c.atDocumentMark || c.rest.head? = some '#' then some ([], 0 < gap.breaks, c)
      else do
        let word := plainWord inFlow c.rest
        let c := c.drop word.length
        let before := if word.isEmpty then [] else gap.text ++ word
        let gap := if word.isEmpty then gap else {}
        if c.rest.isEmpty || !atBlank c.rest then return (before, 0 < gap.breaks, c)
        else
          let (gap, c) ← gap? least c.rest.length gap c
          if !inFlow && c.column < least then return (before, 0 < gap.breaks, c)
          else
            let (text, lines, c) ← plainFrom? inFlow least fuel gap c
            return (before ++ text, lines, c)

/-- A plain scalar, and whether it ends behind a line break.  Its later lines have at least the
given indentation. -/
def plain? (inFlow : Bool) (least : Nat) (c : Cursor) : Option (String × Bool × Cursor) :=
  (plainFrom? inFlow least (c.rest.length + 1) {} c).map fun (text, lines, c) =>
    (String.ofList text, lines, c)

/-! ### Quoted scalars -/

/-- What an escape of one letter stands for. -/
def simpleEscape? : Char → Option Char
  | '0' => some '\x00'
  | 'a' => some '\x07'
  | 'b' => some '\x08'
  | 't' | '\t' => some '\t'
  | 'n' => some '\n'
  | 'v' => some '\x0b'
  | 'f' => some '\x0c'
  | 'r' => some '\r'
  | 'e' => some '\x1b'
  | ' ' => some ' '
  | '"' => some '"'
  | '\'' => some '\''
  | '\\' => some '\\'
  | 'N' => some '\u0085'
  | '_' => some '\u00a0'
  | 'L' => some '\u2028'
  | 'P' => some '\u2029'
  | _ => none

/-- How many hexadecimal digits follow the letter of an escape. -/
def codeDigits? : Char → Option Nat
  | 'x' => some 2
  | 'u' => some 4
  | 'U' => some 8
  | _ => none

/-- What an escape stands for, after its backslash, and how many characters it has. -/
def escape? : List Char → Option (Char × Nat)
  | [] => none
  | c :: rest =>
      match codeDigits? c with
      | none => (simpleEscape? c).map (·, 1)
      | some count => do
          let digits := rest.take count
          let code ← natOfBase? 16 digits
          if h : code.isValidChar then
            if digits.length = count then some (Char.ofNatAux code h, count + 1) else none
          else none

/-- A quoted scalar after its opening mark. -/
def quotedFrom? (mark : Char) : Nat → Cursor → Option (List Char × Cursor)
  | 0, _ => none
  | fuel + 1, c =>
      let go (before : List Char) (c : Cursor) :=
        (quotedFrom? mark fuel c).map fun (text, c) => (before ++ text, c)
      if c.atDocumentMark then none
      else
        match c.rest with
        | [] => none
        | x :: rest =>
            if x = mark then
              if mark = '\'' && rest.head? = some '\'' then go ['\''] (c.drop 2)
              else some ([], c.next)
            else if x = '\\' && mark = '"' then
              if rest.head?.any isBreak then do
                let (gap, c) ← gap? 0 rest.length { breaks := 1 } c.next.dropBreak
                go (List.replicate (gap.breaks - 1) '\n') c
              else do
                let (d, count) ← escape? rest
                go [d] (c.drop (count + 1))
            else if isBlank x || isBreak x then do
              let (gap, c) ← gap? 0 c.rest.length {} c
              go gap.text c
            else go [x] c.next

/-- A quoted scalar. -/
def quoted? (c : Cursor) : Option (String × Cursor) :=
  match c.rest with
  | [] => none
  | mark :: rest =>
      (quotedFrom? mark (rest.length + 1) c.next).map fun (text, c) => (String.ofList text, c)

/-! ### Block scalars -/

/-- What happens to the line breaks at the end of a block scalar. -/
inductive Chomping where
  | strip
  | clip
  | keep
deriving DecidableEq

/-- The chomping that the header of a block scalar asks for, if it does so next. -/
def chomping? (c : Cursor) : Option Chomping × Cursor :=
  match c.rest with
  | '+' :: _ => (some .keep, c.next)
  | '-' :: _ => (some .strip, c.next)
  | _ => (none, c)

/-- The indentation that the header of a block scalar asks for, if it does so next. -/
def indentDigit? (c : Cursor) : Option Nat × Cursor :=
  match c.rest with
  | d :: _ => if d.isDigit then (some (d.toNat - '0'.toNat), c.next) else (none, c)
  | [] => (none, c)

/-- The header of a block scalar: its chomping and its indentation, in either order. -/
def blockHeader? (c : Cursor) : Option (Chomping × Option Nat × Cursor) :=
  let (before, c) := chomping? c
  let (digit, c) := indentDigit? c
  let (after, c) := if before.isNone && digit.isSome then chomping? c else (none, c)
  let c := (c.dropWhile isBlank).dropComment
  if digit = some 0 || !atLineEnd c.rest then none
  else some ((before.orElse fun _ => after).getD .clip, digit, c.dropBreak)

/-- Goes over spaces, as far as the indentation if there is one, and over empty lines.  Gives the
number of line breaks and the greatest column that was reached. -/
def emptyLines? (indent? : Option Nat) : Nat → Nat → Nat → Cursor → Option (Nat × Nat × Cursor)
  | 0, breaks, widest, c => some (breaks, widest, c)
  | fuel + 1, breaks, widest, c =>
      let inside := indent?.all (c.column < ·)
      match c.rest with
      | ' ' :: _ =>
          if inside then emptyLines? indent? fuel breaks widest c.next
          else some (breaks, max widest c.column, c)
      | '\t' :: _ => if inside then none else some (breaks, max widest c.column, c)
      | x :: _ =>
          let widest := max widest c.column
          if isBreak x then emptyLines? indent? fuel (breaks + 1) widest c.dropBreak
          else some (breaks, widest, c)
      | [] => some (breaks, max widest c.column, c)

/-- The lines of a block scalar from a place on, behind `breaks` empty lines, and the number of line
breaks at the end.  `previous` says of the line before whether it begins with a blank; in a folded
scalar a break between two lines that do not becomes a space. -/
def blockLines? (literal : Bool) (indent : Nat) :
    Nat → Nat → Option Bool → Cursor → Option (List Char × Nat × Cursor)
  | 0, breaks, _, c => some ([], breaks, c)
  | fuel + 1, breaks, previous, c =>
      if c.column ≠ indent || c.rest.isEmpty then some ([], breaks, c)
      else do
        let blank := c.rest.head?.any isBlank
        let before :=
          if literal || blank || previous ≠ some false then List.replicate breaks '\n'
          else Gap.text { breaks }
        let line := c.rest.takeWhile (!isBreak ·)
        let c := c.drop line.length
        if c.rest.isEmpty then return (before ++ line, 0, c)
        else
          let (more, _, c) ← emptyLines? (some indent) c.rest.length 1 0 c.dropBreak
          let (text, breaks, c) ← blockLines? literal indent fuel more (some blank) c
          return (before ++ line ++ text, breaks, c)

/-- A block scalar after its mark, in a block whose members stand in column `parent`. -/
def block? (literal : Bool) (parent : Option Nat) (c : Cursor) : Option (String × Cursor) := do
  let (chomping, digit?, c) ← blockHeader? c
  let asked := digit?.map (parent.getD 0 + ·)
  let (breaks, widest, c) ← emptyLines? asked c.rest.length 0 0 c
  let indent := asked.getD (max widest (max (parent.elim 0 (· + 1)) 1))
  let (text, breaks, c) ← blockLines? literal indent (c.rest.length + 1) breaks none c
  let ending := match chomping with
    | .strip => 0
    | .clip => if text.isEmpty then 0 else min breaks 1
    | .keep => breaks
  return (String.ofList (text ++ List.replicate ending '\n'), c)

end LoadProbe.Yaml
