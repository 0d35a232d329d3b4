import LoadProbe.Json.Value

/-!
# Records in JSON

A record is a set of named fields.  It is written as an object, by name, or as an array, by
position in the order of its fields; what is missing is absent.

* `Json.Value.fields?` takes a record out of a value.
* `Json.Written.fields?` takes it out of a document directly.  Members with other names are
  skipped, so whatever they hold does not matter; a field given twice spoils the record.
-/

namespace LoadProbe.Json

/-- What a record holds under each name. -/
abbrev Fields : Type := String → Option Value

/-- The record whose fields are given in the order of their names. -/
def Fields.ofItems (names : List String) (items : List Value) : Fields :=
  fun name => (names.zip items).lookup name

/-- The record with the given named fields; of two with one name the first counts. -/
def Fields.ofMembers (members : List (String × Value)) : Fields :=
  fun name => members.lookup name

/-- The record that a value holds.  Only objects and arrays that are not too long hold one. -/
def Value.fields? (names : List String) : Value → Option Fields
  | .array items => if items.length ≤ names.length then some (.ofItems names items) else none
  | .object members => some (.ofMembers members)
  | _ => none

/-- The member with its key as a text. -/
def keyed? (member : List Piece × Written) : Option (String × Written) :=
  (text? member.1).map fun key => (key, member.2)

/-- The member with its value, which stands inside one object. -/
def valued? (member : String × Written) : Option (String × Value) :=
  (member.2.valueWithin? 1).map fun v => (member.1, v)

/-- The record that a document holds, nothing if some field of it or some key has no meaning. -/
def Written.fields? (names : List String) : Written → Option Fields
  | .array items =>
      if items.length ≤ names.length then
        (items.mapM (Written.valueWithin? 1)).map (Fields.ofItems names)
      else none
  | .object members => do
      let all ← members.mapM keyed?
      let known := all.filter fun member => names.contains member.1
      if (known.map Prod.fst).Nodup then (known.mapM valued?).map Fields.ofMembers
      else none
  | _ => none

end LoadProbe.Json
