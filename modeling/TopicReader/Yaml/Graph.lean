import TopicReader.Yaml.Source
import TopicReader.Yaml.Tag

/-!
# `Yaml.Graph` — the nodes of a document

A node is known by its number, so that an alias is the number of the node it stands for, and a node may lie
in itself.

## Contents
- **The types.** `Shape`, `Node` and `Graph`.
- **Access.** `tag`, `shape`, `entries`; `setEntries` and `setTag` change one node.
- **Merging.** `Graph.flatten`: the entries that merge keys bring in go in front of a mapping's own.
- **Text.** `Graph.scalarText`: the text of a scalar, or of the value entry of a mapping.
-/

namespace TopicReader.Yaml

/-- The number of a node. -/
abbrev NodeId := Nat

/-- What a node is made of. -/
inductive Shape where
  | scalar (text : String)
  | sequence (items : List NodeId)
  | mapping (entries : List (NodeId × NodeId))
deriving DecidableEq, Repr, Inhabited

/-- A node: its kind and what it is made of. The two need not fit. -/
structure Node where
  tag : Tag
  shape : Shape
deriving DecidableEq, Repr, Inhabited

/-- The nodes of a document by their numbers. -/
abbrev Graph := Array Node

namespace Graph

/-! ## Access -/

/-- The kind of a node. -/
def tag (g : Graph) (n : NodeId) : Tag := (g[n]?.map Node.tag).getD .other

/-- What a node is made of. -/
def shape (g : Graph) (n : NodeId) : Shape := (g[n]?.map Node.shape).getD (.scalar "")

/-- The entries of a mapping. -/
def entries (g : Graph) (n : NodeId) : List (NodeId × NodeId) :=
  match g.shape n with
  | .mapping es => es
  | _ => []

/-- Is a node a mapping? -/
def isMapping (g : Graph) (n : NodeId) : Bool :=
  match g.shape n with
  | .mapping _ => true
  | _ => false

/-- Is a node a scalar? -/
def isScalar (g : Graph) (n : NodeId) : Bool :=
  match g.shape n with
  | .scalar _ => true
  | _ => false

/-- Change what a node is made of. -/
def setShape (g : Graph) (n : NodeId) (s : Shape) : Graph :=
  g.setIfInBounds n ⟨g.tag n, s⟩

/-- Change the entries of a mapping. -/
def setEntries (g : Graph) (n : NodeId) (es : List (NodeId × NodeId)) : Graph :=
  g.setShape n (.mapping es)

/-- Change the kind of a node. -/
def setTag (g : Graph) (n : NodeId) (t : Tag) : Graph := g.setIfInBounds n ⟨t, g.shape n⟩

/-- The failure of a document whose nodes make no value. -/
def unbuildable : Failure := malformed .building

/-! ## Merging -/

/-- The number of entries whose key is a merge key. -/
def mergeCount (g : Graph) : Nat :=
  g.toList.foldl (fun total node =>
    match node.shape with
    | .mapping es => total + (es.filter fun e => g.tag e.1 == .merge).length
    | _ => total) 0

/-- The value of the first merge key of a mapping, and its entries without that one. -/
def takeMerge? (g : Graph) (n : NodeId) : Option (NodeId × List (NodeId × NodeId)) :=
  let es := g.entries n
  let front := es.takeWhile fun e => g.tag e.1 != .merge
  match es.drop front.length with
  | [] => none
  | e :: rest => some (e.2, front ++ rest)

/-- The keys of a mapping that are value marks become plain texts. -/
def plainKeys (g : Graph) (n : NodeId) : Graph :=
  (g.entries n).foldl (fun g e => if g.tag e.1 = .value then g.setTag e.1 .text else g) g

/-- Replace the merge keys of a mapping by the entries that they bring in, those of the first one in front;
    of a list of mappings the last one comes first. A mapping may bring in itself. Each call of the function
    within itself follows the removal of a merge key, so fuel for every one of them suffices. -/
def flatten : Nat → NodeId → Graph → Except Failure Graph
  | 0, _, _ => .error (.mishap .tooDeep "merge keys without an end")
  | fuel + 1, n, g =>
    match g.takeMerge? n with
    | none => .ok (g.plainKeys n)
    | some (value, rest) => do
      let g := g.setEntries n rest
      let (brought, g) ←
        match g.shape value with
        | .mapping _ => do
          let g ← flatten fuel value g
          pure (g.entries value, g)
        | .sequence items =>
          items.foldlM (fun acc item =>
            if !acc.2.isMapping item then throw unbuildable
            else do
              let g ← flatten fuel item acc.2
              pure (g.entries item ++ acc.1, g)) ([], g)
        | .scalar _ => throw unbuildable
      let g ← flatten fuel n g
      return g.setEntries n (brought ++ g.entries n)

/-- The graph with the merge keys of one mapping replaced. -/
def flattened (g : Graph) (n : NodeId) : Except Failure Graph := flatten (g.mergeCount + 1) n g

/-! ## Text -/

/-- The text of a scalar; a mapping lends the text of its first value entry. -/
def textOf (g : Graph) : Nat → NodeId → Except Failure String
  | 0, _ => .error (.mishap .tooDeep "a text that lies in itself")
  | fuel + 1, n =>
    match g.shape n with
    | .scalar s => .ok s
    | .sequence _ => .error unbuildable
    | .mapping es =>
      match es.find? fun e => g.tag e.1 == .value with
      | some e => g.textOf fuel e.2
      | none => .error unbuildable

/-- The text of a scalar, or of a mapping in place of one. -/
def scalarText (g : Graph) (n : NodeId) : Except Failure String := g.textOf (g.size + 1) n

end Graph

end TopicReader.Yaml
