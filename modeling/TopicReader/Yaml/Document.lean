import TopicReader.Yaml.Graph.Draft
import TopicReader.Yaml.Heap

/-!
# `Yaml.Document` — the value of a file in markup

## Contents
- **Loading.** `Yaml.load`: the one document of a file, null if it has none.
-/

namespace TopicReader.Yaml

/-- The one document of a file, whose collections lie in each other up to a depth; null if it has none. -/
def load (depth : Nat) (bytes : List UInt8) : Except Failure Document := do
  match ← Graph.ofSource depth (Source.ofBytes bytes) with
  | none => return .plain .null
  | some (g, root) =>
    let (h, a) ← Builder.build g root
    return h.document a

end TopicReader.Yaml
