import LoadProbe.Toml.Number

/-!
# Reading TOML

A TOML text is a list of sections, each a header and the pairs below it.

* `Toml.parse?` reads a whole text as a tree.
* Keys with dots make tables of their own, which only further such keys may extend; a header may
  name a table whose parts were named before it, but no table twice.
-/

namespace LoadProbe.Toml

open LoadProbe.Settings LoadProbe.Text

/-! ### Blanks -/

/-- What is left after spaces and tabs. -/
def skipSpaces (cs : List Char) : List Char := cs.dropWhile fun c => c = ' ' || c = '\t'

/-- What is left after a comment. -/
def skipComment (cs : List Char) : List Char :=
  match cs with
  | '#' :: rest => rest.dropWhile fun c => c = '\t' || ' ' ≤ c
  | _ => cs

/-- What is left after the end of a line, before which there may be spaces and a comment. -/
def endLine? (cs : List Char) : Option (List Char) :=
  match skipComment (skipSpaces cs) with
  | [] => some []
  | '\n' :: rest => some rest
  | _ => none

/-- What is left after spaces, comments and ends of lines; the number bounds the lines. -/
def skipLines : Nat → List Char → List Char
  | 0, cs => cs
  | fuel + 1, cs =>
      match skipComment (skipSpaces cs) with
      | '\n' :: rest => skipLines fuel rest
      | cs => cs

/-- What is left after spaces, comments and ends of lines. -/
def skipBlank (cs : List Char) : List Char := skipLines cs.length cs

/-! ### Strings -/

/-- Whether a string may have the character as it is. -/
def isStringCharacter (c : Char) : Bool := c = '\t' || (' ' ≤ c && c.toNat ≠ 0x7f)

/-- The character with the code that the given number of hexadecimal digits spell. -/
def codePoint? (count : Nat) (cs : List Char) : Option (Char × List Char) := do
  let digits := cs.take count
  let code ← natOfBase? 16 digits
  if h : code.isValidChar then
    if digits.length = count then some (Char.ofNatAux code h, cs.drop count) else none
  else none

/-- What a backslash before a character stands for. -/
def escape? : List Char → Option (Char × List Char)
  | '"' :: cs => some ('"', cs)
  | '\\' :: cs => some ('\\', cs)
  | 'b' :: cs => some ('\x08', cs)
  | 'f' :: cs => some ('\x0c', cs)
  | 'n' :: cs => some ('\n', cs)
  | 'r' :: cs => some ('\r', cs)
  | 't' :: cs => some ('\t', cs)
  | 'u' :: cs => codePoint? 4 cs
  | 'U' :: cs => codePoint? 8 cs
  | _ => none

/-- What is left after a backslash at the end of a line: the blanks after it do not count. -/
def joinLines? (cs : List Char) : Option (List Char) :=
  match skipSpaces cs with
  | '\n' :: rest => some (rest.dropWhile fun c => c = ' ' || c = '\t' || c = '\n')
  | _ => none

/-- A string of one line after its opening mark. -/
def lineString? (mark : Char) : Nat → List Char → Option (List Char × List Char)
  | 0, _ => none
  | fuel + 1, cs =>
      match cs with
      | [] => none
      | c :: cs =>
          if c = mark then some ([], cs)
          else if c = '\\' ∧ mark = '"' then do
            let (d, cs) ← escape? cs
            let (text, rest) ← lineString? mark fuel cs
            return (d :: text, rest)
          else if isStringCharacter c then do
            let (text, rest) ← lineString? mark fuel cs
            return (c :: text, rest)
          else none

/-- A string of several lines after its opening marks.  Three marks end it; up to two more before
the end belong to it. -/
def blockString? (mark : Char) : Nat → List Char → Option (List Char × List Char)
  | 0, _ => none
  | fuel + 1, cs =>
      match cs with
      | [] => none
      | c :: cs =>
          if c = mark then
            let marks := (c :: cs).takeWhile (· = mark)
            if 3 ≤ marks.length then
              let inner := min (marks.length - 3) 2
              some (List.replicate inner mark, cs.drop (inner + 2))
            else do
              let (text, rest) ← blockString? mark fuel (cs.drop (marks.length - 1))
              return (marks ++ text, rest)
          else if c = '\\' ∧ mark = '"' then
            match escape? cs with
            | some (d, cs) => do
                let (text, rest) ← blockString? mark fuel cs
                return (d :: text, rest)
            | none => (joinLines? cs).bind (blockString? mark fuel)
          else if c = '\n' || isStringCharacter c then do
            let (text, rest) ← blockString? mark fuel cs
            return (c :: text, rest)
          else none

/-- A string of several lines, whose first line end does not count. -/
def block? (mark : Char) (cs : List Char) : Option (List Char × List Char) :=
  match cs with
  | '\n' :: rest => blockString? mark (cs.length + 1) rest
  | _ => blockString? mark (cs.length + 1) cs

/-- A string after its first mark, and whether it may have several lines. -/
def string? (mark : Char) (cs : List Char) : Option (Bool × String × List Char) :=
  if cs.take 2 = [mark, mark] then
    (block? mark (cs.drop 2)).map fun (text, rest) => (true, String.ofList text, rest)
  else
    (lineString? mark (cs.length + 1) cs).map fun (text, rest) =>
      (false, String.ofList text, rest)

/-! ### Keys -/

/-- One part of a key: a word or a string of one line. -/
def key? (cs : List Char) : Option (String × List Char) :=
  match cs with
  | c :: rest =>
      if c = '"' ∨ c = '\'' then
        match string? c rest with
        | some (false, text, rest) => some (text, rest)
        | _ => none
      else (word? cs).map fun (w, rest) => (String.ofList w, rest)
  | [] => none

/-- The parts of a key with dots between them, and what follows the spaces after it. -/
def path? : Nat → List Char → Option (List String × List Char)
  | 0, _ => none
  | fuel + 1, cs => do
      let (part, rest) ← key? cs
      match skipSpaces rest with
      | '.' :: rest =>
          let (parts, rest) ← path? fuel (skipSpaces rest)
          return (part :: parts, rest)
      | rest => return ([part], rest)

/-- A key up to and including the equals sign and the spaces after it. -/
def assignment? (cs : List Char) : Option (List String × List Char) := do
  let (path, rest) ← path? (cs.length + 1) cs
  return (path, skipSpaces (← mark? '=' rest))

/-! ### Tables -/

/-- A member of a table that is being read. -/
inductive Node where
  /-- A value. -/
  | value (t : Tree)
  /-- A table made by keys with dots. -/
  | dotted (members : List (String × Node))
  /-- A table made by headers, and whether a header named it. -/
  | table (named : Bool) (members : List (String × Node))
  /-- An array of tables made by headers, the last one first. -/
  | tables (elements : List (List (String × Node)))

/-- The members of a table that is being read. -/
abbrev Members : Type := List (String × Node)

mutual

/-- The value of a member. -/
def Node.tree : Node → Tree
  | .value t => t
  | .dotted members => .table (treesOfMembers members)
  | .table _ members => .table (treesOfMembers members)
  | .tables elements => .list (treesOfElements elements).reverse

/-- The values of all members. -/
def treesOfMembers : Members → List (String × Tree)
  | [] => []
  | (key, node) :: members => (key, node.tree) :: treesOfMembers members

/-- The values of all elements. -/
def treesOfElements : List Members → List Tree
  | [] => []
  | members :: elements => .table (treesOfMembers members) :: treesOfElements elements

end

/-- Adds a pair to a table. -/
def addPair (t : Tree) : List String → Members → Option Members
  | [], _ => none
  | [key], members =>
      if (SortedMap.get? key members).isSome then none
      else some (SortedMap.insert key (.value t) members)
  | key :: path, members =>
      match SortedMap.get? key members with
      | none => (addPair t path []).map fun inner => SortedMap.insert key (.dotted inner) members
      | some (.dotted inner) =>
          (addPair t path inner).map fun inner => SortedMap.insert key (.dotted inner) members
      | some _ => none

/-- Adds members that must be new. -/
def addNew (body members : Members) : Option Members :=
  body.foldlM (fun members (key, node) =>
    if (SortedMap.get? key members).isSome then none
    else some (SortedMap.insert key node members)) members

/-- Adds the pairs below a header. -/
def addSection (isArray : Bool) (body : Members) : List String → Members → Option Members
  | [], _ => none
  | [key], members =>
      match SortedMap.get? key members with
      | none =>
          some (SortedMap.insert key (if isArray then .tables [body] else .table true body) members)
      | some (.table false inner) =>
          if isArray then none
          else (addNew body inner).map fun inner => SortedMap.insert key (.table true inner) members
      | some (.tables elements) =>
          if isArray then some (SortedMap.insert key (.tables (body :: elements)) members) else none
      | some _ => none
  | key :: path, members =>
      match SortedMap.get? key members with
      | none =>
          (addSection isArray body path []).map fun inner =>
            SortedMap.insert key (.table false inner) members
      | some (.table named inner) =>
          (addSection isArray body path inner).map fun inner =>
            SortedMap.insert key (.table named inner) members
      | some (.tables (last :: elements)) =>
          (addSection isArray body path last).map fun last =>
            SortedMap.insert key (.tables (last :: elements)) members
      | some _ => none

/-! ### Values -/

mutual

/-- A value. -/
def value? : Nat → List Char → Option (Tree × List Char)
  | 0, _ => none
  | fuel + 1, cs =>
      match cs with
      | '[' :: rest => (items? fuel (skipBlank rest)).map fun (items, rest) => (.list items, rest)
      | '\x7b' :: rest =>
          match skipSpaces rest with
          | '\x7d' :: rest => some (.table [], rest)
          | rest => (pairs? fuel [] rest).map fun (members, rest) =>
              (.table (treesOfMembers members), rest)
      | '+' :: rest => (word? rest).bind fun (w, rest) => number? w rest
      | '"' :: rest => (string? '"' rest).map fun (_, text, rest) => (.text text, rest)
      | '\'' :: rest => (string? '\'' rest).map fun (_, text, rest) => (.text text, rest)
      | cs => (word? cs).bind fun (w, rest) => wordValue? w rest

/-- The items of an array up to and including the closing bracket; a comma may stand before it. -/
def items? : Nat → List Char → Option (List Tree × List Char)
  | 0, _ => none
  | fuel + 1, cs =>
      match cs with
      | ']' :: rest => some ([], rest)
      | cs => do
          let (item, rest) ← value? fuel cs
          match skipBlank rest with
          | ',' :: rest =>
              let (items, rest) ← items? fuel (skipBlank rest)
              return (item :: items, rest)
          | ']' :: rest => return ([item], rest)
          | _ => none

/-- The pairs of a table in braces up to and including the closing brace. -/
def pairs? : Nat → Members → List Char → Option (Members × List Char)
  | 0, _, _ => none
  | fuel + 1, members, cs => do
      let (path, rest) ← assignment? cs
      let (t, rest) ← value? fuel rest
      let members ← addPair t path members
      match skipSpaces rest with
      | '\x7d' :: rest => return (members, rest)
      | ',' :: rest => pairs? fuel members (skipSpaces rest)
      | _ => none

end

/-! ### Documents -/

/-- A header after its first bracket: whether it names an array, and its path. -/
def header? (cs : List Char) : Option (Bool × List String × List Char) := do
  let (isArray, cs) := match cs with
    | '[' :: rest => (true, rest)
    | cs => (false, cs)
  let (path, rest) ← path? (cs.length + 1) (skipSpaces cs)
  let rest ← mark? ']' rest
  let rest ← if isArray then mark? ']' rest else some rest
  return (isArray, path, ← endLine? rest)

/-- A line with a pair. -/
def pairLine? (cs : List Char) : Option (List String × Tree × List Char) := do
  let (path, rest) ← assignment? cs
  let (t, rest) ← value? (2 * cs.length + 1) rest
  return (path, t, ← endLine? rest)

/-- A document that is being read: what is complete, and the section that is not. -/
structure Draft where
  complete : Members := []
  isArray : Bool := false
  path : List String := []
  body : Members := []

/-- Completes the open section. -/
def Draft.close (d : Draft) : Option Members :=
  match d.path with
  | [] => addNew d.body d.complete
  | path => addSection d.isArray d.body path d.complete

/-- Reads lines into a document; the number bounds them. -/
def lines? : Nat → Draft → List Char → Option Members
  | 0, _, _ => none
  | fuel + 1, d, cs =>
      match skipBlank cs with
      | [] => d.close
      | '[' :: rest => do
          let complete ← d.close
          let (isArray, path, rest) ← header? rest
          lines? fuel { complete, isArray, path } rest
      | cs => do
          let (path, t, rest) ← pairLine? cs
          let body ← addPair t path d.body
          lines? fuel { d with body } rest

/-- Reads a whole text; a mark of its byte order does not count. -/
def parse? (text : String) : Option Tree :=
  let cs := match text.toList with
    | '\ufeff' :: cs => cs
    | cs => cs
  let cs := unifyLines cs
  (lines? (cs.length + 1) {} cs).map fun members => .table (treesOfMembers members)

end LoadProbe.Toml
