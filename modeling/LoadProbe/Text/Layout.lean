/-!
# Laying out text

Padding and trimming.  Widths count characters; padding never cuts.
-/

namespace LoadProbe.Text

/-- Fills `text` with spaces on the left up to `width` characters. -/
def padLeft (width : Nat) (text : String) : String :=
  String.ofList (List.replicate (width - text.length) ' ') ++ text

/-- Fills `text` with spaces on the right up to `width` characters. -/
def padRight (width : Nat) (text : String) : String :=
  text ++ String.ofList (List.replicate (width - text.length) ' ')

/-- The list without its longest suffix of elements that satisfy `p`. -/
def dropEnd (p : Char → Bool) (cs : List Char) : List Char :=
  (cs.reverse.dropWhile p).reverse

/-- Whether `text` contains `part` as a contiguous piece. -/
def contains (part : List Char) : List Char → Bool
  | [] => part.isEmpty
  | c :: cs => part.isPrefixOf (c :: cs) || contains part cs

/-- Splits a list at every element equal to `separator`. -/
def splitAt (separator : Char) : List Char → List (List Char)
  | [] => [[]]
  | c :: cs =>
      match splitAt separator cs with
      | [] => [[c]]
      | part :: parts => if c = separator then [] :: part :: parts else (c :: part) :: parts

/-- Every carriage return before a line feed left out. -/
def unifyLines : List Char → List Char
  | '\r' :: '\n' :: cs => '\n' :: unifyLines cs
  | c :: cs => c :: unifyLines cs
  | [] => []

/-- Lower case of an ASCII letter; every other character is kept. -/
def lowerAscii (text : String) : String :=
  String.ofList (text.toList.map Char.toLower)

end LoadProbe.Text
