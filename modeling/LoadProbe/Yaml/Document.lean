import LoadProbe.Yaml.Node
import LoadProbe.Yaml.Token

/-!
# YAML documents

How tokens make up nodes, and nodes documents.  What may be missing, a key, a value or an item, is
null then.

* `Yaml.node?` reads a node; the functions beside it read what collections consist of.
* `Yaml.documents?` reads all documents of a text.
-/

namespace LoadProbe.Yaml

/-- The anchors of a document: the number of each name, the latest first, and the nodes that are
complete, by number. -/
structure Anchors where
  numbers : List (String × Nat) := []
  nodes : List (Nat × Node) := []

namespace Anchors

/-- Gives a name to the node that comes next. -/
def declare (name : String) (a : Anchors) : Anchors :=
  { a with numbers := (name, a.numbers.length) :: a.numbers }

/-- The node that goes by a name; a node that is not complete is bad. -/
def find? (name : String) (a : Anchors) : Option Node :=
  (a.numbers.lookup name).map fun number => (a.nodes.lookup number).getD .bad

/-- The node with the given number is complete. -/
def complete (number? : Option Nat) (node : Node) (a : Anchors) : Anchors :=
  match number? with
  | some number => { a with nodes := (number, node) :: a.nodes }
  | none => a

end Anchors

/-- What was read, the anchors so far, and the tokens that follow. -/
abbrev Reading (α : Type) : Type := α × Anchors × List Token

/-- The anchor and the tag before a node, in either order: the anchor's number, and the tag. -/
def properties (a : Anchors) : List Token → Reading (Option Nat × Option Tag)
  | .anchor name :: .tag tag :: tokens | .tag tag :: .anchor name :: tokens =>
      ((some a.numbers.length, some tag), a.declare name, tokens)
  | .anchor name :: tokens => ((some a.numbers.length, none), a.declare name, tokens)
  | .tag tag :: tokens => ((none, some tag), a, tokens)
  | tokens => ((none, none), a, tokens)

/-- Whether a node is missing in a block: another entry or the end of the block comes next. -/
def lacksNode : List Token → Bool
  | .key :: _ | .colon :: _ | .blockEnd :: _ => true
  | _ => false

/-- Whether an item is missing in a block: another item or the end of the block comes next. -/
def lacksItem : List Token → Bool
  | .item :: _ | .blockEnd :: _ => true
  | _ => false

/-- Whether a node is missing in braces. -/
def lacksMember : List Token → Bool
  | .comma :: _ | .tableClose :: _ => true
  | _ => false

/-- Whether a node is missing in brackets. -/
def lacksListItem : List Token → Bool
  | .comma :: _ | .listClose :: _ => true
  | _ => false

mutual

/-- A node.  Only in a block can it be a block itself, and only as a member of a mapping can it be a
sequence that is not indented. -/
def node? (block member : Bool) : Nat → Anchors → List Token → Option (Reading Node)
  | 0, _, _ => none
  | _ + 1, a, .alias name :: tokens => (a.find? name).map (·, a, tokens)
  | fuel + 1, a, tokens => do
      let ((number?, tag?), a, tokens) := properties a tokens
      let (node, a, tokens) ← content? block member tag? number?.isSome fuel a tokens
      return (node, a.complete number? node, tokens)

/-- What a node consists of, after its properties. -/
def content? (block member : Bool) (tag? : Option Tag) (anchored : Bool) :
    Nat → Anchors → List Token → Option (Reading Node)
  | 0, _, _ => none
  | fuel + 1, a, tokens =>
      let missing :=
        if tag?.isSome || anchored then some (Node.ofScalar tag? true "", a, tokens) else none
      match tokens with
      | .scalar plain text :: tokens => some (.ofScalar tag? plain text, a, tokens)
      | .listOpen :: tokens =>
          (listItems? true fuel a tokens).map fun (items, rest) => (.sequence items, rest)
      | .tableOpen :: tokens =>
          (tableMembers? true fuel a tokens).map fun (nodes, rest) => (.ofPairs nodes, rest)
      | .item :: tokens =>
          if member then
            (looseItems? fuel a (.item :: tokens)).map fun (items, rest) => (.sequence items, rest)
          else missing
      | .sequenceStart :: tokens =>
          if block then (blockItems? fuel a tokens).map fun (items, rest) => (.sequence items, rest)
          else missing
      | .mappingStart :: tokens =>
          if block then
            (blockMembers? fuel a tokens).map fun (nodes, rest) => (.ofPairs nodes, rest)
          else missing
      | _ => missing

/-- The items of an indented sequence up to the end of its block. -/
def blockItems? : Nat → Anchors → List Token → Option (Reading (List Node))
  | 0, _, _ => none
  | fuel + 1, a, tokens =>
      match tokens with
      | .blockEnd :: tokens => some ([], a, tokens)
      | .item :: tokens => do
          let (item, a, tokens) ←
            if lacksItem tokens then some (.null, a, tokens) else node? true false fuel a tokens
          let (items, rest) ← blockItems? fuel a tokens
          return (item :: items, rest)
      | _ => none

/-- The items of a sequence that is not indented. -/
def looseItems? : Nat → Anchors → List Token → Option (Reading (List Node))
  | 0, _, _ => none
  | fuel + 1, a, tokens =>
      match tokens with
      | .item :: tokens => do
          let (item, a, tokens) ←
            if lacksItem tokens || lacksNode tokens then some (.null, a, tokens)
            else node? true false fuel a tokens
          let (items, rest) ← looseItems? fuel a tokens
          return (item :: items, rest)
      | _ => some ([], a, tokens)

/-- The keys and values of an indented mapping up to the end of its block. -/
def blockMembers? : Nat → Anchors → List Token → Option (Reading (List Node))
  | 0, _, _ => none
  | fuel + 1, a, tokens =>
      match tokens with
      | .blockEnd :: tokens => some ([], a, tokens)
      | .key :: tokens => do
          let (key, a, tokens) ←
            if lacksNode tokens then some (.null, a, tokens) else node? true true fuel a tokens
          let (nodes, rest) ← blockValue? fuel a tokens
          return (key :: nodes, rest)
      | .colon :: _ => do
          let (nodes, rest) ← blockValue? fuel a tokens
          return (.null :: nodes, rest)
      | _ => none

/-- The value of a key, and the keys and values after it, up to the end of the block. -/
def blockValue? : Nat → Anchors → List Token → Option (Reading (List Node))
  | 0, _, _ => none
  | fuel + 1, a, tokens => do
      let (value, a, tokens) ← match tokens with
        | .colon :: tokens =>
            if lacksNode tokens then some (.null, a, tokens) else node? true true fuel a tokens
        | _ => some (.null, a, tokens)
      let (nodes, rest) ← blockMembers? fuel a tokens
      return (value :: nodes, rest)

/-- The items in brackets up to the closing one. -/
def listItems? (first : Bool) : Nat → Anchors → List Token → Option (Reading (List Node))
  | 0, _, _ => none
  | fuel + 1, a, tokens =>
      match tokens with
      | .listClose :: tokens => some ([], a, tokens)
      | _ => do
          let tokens ← match tokens with
            | .comma :: rest => some (if first then tokens else rest)
            | _ => if first then some tokens else none
          match tokens with
          | .listClose :: tokens => return ([], a, tokens)
          | _ => do
              let (item, a, tokens) ← match tokens with
                | .key :: tokens => listPair? fuel a tokens
                | _ => node? false false fuel a tokens
              let (items, rest) ← listItems? false fuel a tokens
              return (item :: items, rest)

/-- An item in brackets that is a mapping of one key, after the mark of the key.  Without a key, the
token that comes in its place belongs to it. -/
def listPair? : Nat → Anchors → List Token → Option (Reading Node)
  | 0, _, _ => none
  | fuel + 1, a, tokens => do
      let (key, a, tokens) ← match tokens with
        | .colon :: tokens | .comma :: tokens | .listClose :: tokens => some (.null, a, tokens)
        | _ => node? false false fuel a tokens
      let (value, a, tokens) ← match tokens with
        | .colon :: tokens =>
            if lacksListItem tokens then some (.null, a, tokens)
            else node? false false fuel a tokens
        | _ => some (.null, a, tokens)
      return (.ofPairs [key, value], a, tokens)

/-- The keys and values in braces up to the closing one. -/
def tableMembers? (first : Bool) : Nat → Anchors → List Token → Option (Reading (List Node))
  | 0, _, _ => none
  | fuel + 1, a, tokens =>
      match tokens with
      | .tableClose :: tokens => some ([], a, tokens)
      | _ => do
          let tokens ← match tokens with
            | .comma :: rest => some (if first then tokens else rest)
            | _ => if first then some tokens else none
          match tokens with
          | .tableClose :: tokens => return ([], a, tokens)
          | .colon :: _ => do
              let (nodes, rest) ← tableValue? fuel a tokens
              return (.null :: nodes, rest)
          | .key :: tokens => do
              let (key, a, tokens) ← match tokens with
                | .colon :: _ => some (.null, a, tokens)
                | _ =>
                    if lacksMember tokens then some (.null, a, tokens)
                    else node? false false fuel a tokens
              let (nodes, rest) ← tableValue? fuel a tokens
              return (key :: nodes, rest)
          | _ => do
              let (key, a, tokens) ← node? false false fuel a tokens
              let (nodes, rest) ← tableMembers? false fuel a tokens
              return (key :: .null :: nodes, rest)

/-- The value of a key in braces, and the keys and values after it, up to the closing brace. -/
def tableValue? : Nat → Anchors → List Token → Option (Reading (List Node))
  | 0, _, _ => none
  | fuel + 1, a, tokens => do
      let (value, a, tokens) ← match tokens with
        | .colon :: tokens =>
            if lacksMember tokens then some (.null, a, tokens) else node? false false fuel a tokens
        | _ => some (.null, a, tokens)
      let (nodes, rest) ← tableMembers? false fuel a tokens
      return (value :: nodes, rest)

end

/-- Whether a document has no node: it ends at once. -/
def lacksRoot : List Token → Bool
  | [] | .directive :: _ | .documentStart :: _ | .documentEnd :: _ => true
  | _ => false

/-- A document after its beginning. -/
def document? (fuel : Nat) (tokens : List Token) : Option (Node × List Token) := do
  let (root, _, tokens) ← node? true false fuel {} tokens
  return (root, tokens)

/-- A document that begins with a mark, behind directives. -/
def markedDocument? (fuel : Nat) (tokens : List Token) : Option (Node × List Token) :=
  match tokens.dropWhile (· = .directive) with
  | .documentStart :: tokens =>
      if lacksRoot tokens then some (.null, tokens) else document? fuel tokens
  | _ => none

/-- The documents after the first one, behind the marks that end it. -/
def moreDocuments? (fuel : Nat) : Nat → List Token → Option (List Node)
  | 0, _ => none
  | count + 1, tokens =>
      match tokens.dropWhile (· = .documentEnd) with
      | [] => some []
      | tokens => do
          let (root, tokens) ← markedDocument? fuel tokens
          return root :: (← moreDocuments? fuel count tokens)

/-- All documents.  Only the first may begin without a mark. -/
def documents? (tokens : List Token) : Option (List Node) := do
  let fuel := 4 * tokens.length + 4
  match tokens with
  | [] => return []
  | .directive :: _ | .documentStart :: _ => moreDocuments? fuel fuel tokens
  | _ => do
      let (root, tokens) ← document? fuel tokens
      return root :: (← moreDocuments? fuel fuel tokens)

end LoadProbe.Yaml
