import LoadProbe.Text.Layout
import LoadProbe.Url.Composition
import LoadProbe.Url.Direction
import LoadProbe.Url.Fault
import LoadProbe.Url.Folding
import LoadProbe.Url.Joining
import LoadProbe.Url.Punycode

/-!
# Domain names

A domain name is brought into a common form before it is used: its characters are folded and
composed.  Then no forbidden character may be left, every label in Punycode must stand for a label
that needed it, no label may begin with a mark, and none may mix directions of writing.

* `Url.domain?` gives the common form of a sound name.
* `Url.meantLabel?` gives the label that a label in Punycode stands for.
-/

namespace LoadProbe.Url

open LoadProbe.Text

/-- The common form of a name, or of a part of it. -/
def commonForm (name : List Char) : List Char :=
  compose ((name.filter (!isIgnored ·)).flatMap fold)

/-- Whether a name is in the common form already, with no forbidden character. -/
def isCommon (name : List Char) : Bool :=
  name.all (fun c => !isForbidden c && !isIgnored c && fold c = [c]) && compose name = name

/-- The label that a label of the common form stands for: what its Punycode says, if it begins like
Punycode.  Punycode that ends in a hyphen, or says nothing, is not needed, and no more than 2000
characters of it are read. -/
def meantLabel? : List Char → Option (List Char)
  | 'x' :: 'n' :: '-' :: '-' :: text =>
      if text.isEmpty || text.getLast? = some '-' || 2000 < text.length then none
      else (punycode? text).filter isCommon
  | label => some label

/-- Whether a label is sound, apart from its direction.  Only a label in ASCII may be longer than
1000 characters. -/
def isSoundLabel (label : List Char) : Bool :=
  !label.head?.any isMark && keepsJoiners [] label
    && (label.all (·.toNat < 0x80) || label.length ≤ 1000)

/-- Whether labels make a sound name. -/
def areSoundLabels (labels : List (List Char)) : Bool :=
  labels.all isSoundLabel && keepDirections labels

/-- The common form of a domain name. -/
def domain? (name : List Char) : Except Fault (List Char) :=
  let name := commonForm name
  let labels? := (splitAt '.' name).mapM meantLabel?
  if name.any isForbidden || !labels?.any areSoundLabels then .error .invalidDomain
  else if name.isEmpty then .error .emptyHost
  else .ok name

end LoadProbe.Url
