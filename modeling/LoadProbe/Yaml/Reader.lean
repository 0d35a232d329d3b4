import LoadProbe.Yaml.Document

/-!
# Reading YAML

* `Yaml.parse?` reads a text with at most one document as a tree of settings.
-/

namespace LoadProbe.Yaml

open LoadProbe.Settings

/-- Reads a whole text.  A text without a document is an empty table. -/
def parse? (text : String) : Option Tree := do
  match ← documents? (← tokens? text) with
  | [] => return .table []
  | [root] => root.tree?
  | _ => none

end LoadProbe.Yaml
