import TopicReader.Value.Text
import TopicReader.Yaml.Content
import TopicReader.Yaml.Graph

/-!
# `Yaml.Heap` — the objects that the nodes of a document stand for

An object is known by its address. A collection is made empty and filled after all that was made before it,
so of several faults the one nearest to the root comes first, and a collection may lie in itself.

## Contents
- **The types.** `Object` and `Heap`.
- **Keys.** `Heap.isKey`, `Heap.sameKey`, `Heap.put`.
- **Building.** `Builder`: the nodes, the objects, and the collections that wait to be filled.
- **Unrolling.** `Heap.document`: an object as a value, a mark standing for what lies in itself.
-/

namespace TopicReader.Yaml

/-- The place of an object. -/
abbrev Address := Nat

/-- What a node stands for. -/
inductive Object where
  | scalar (v : Value)
  | list (items : List Address)
  | pair (key value : Address)
  | set (members : List Address)
  | map (entries : List (Address × Address))
deriving Repr, Inhabited

/-- The objects by their addresses. -/
abbrev Heap := Array Object

namespace Heap

/-! ## Keys -/

/-- Can an object be a key? -/
def isKey (h : Heap) (a : Address) : Bool :=
  match h[a]? with
  | some (.scalar _) => true
  | _ => false

/-- Are two objects one key? An object always is the same key as itself. -/
def sameKey (h : Heap) (a b : Address) : Bool :=
  a == b ||
    match h[a]?, h[b]? with
    | some (.scalar x), some (.scalar y) => x.same y
    | _, _ => false

/-- Set a key: in its old place if it is there, at the end otherwise. -/
def put (h : Heap) (es : List (Address × Address)) (k v : Address) : List (Address × Address) :=
  match es with
  | [] => [(k, v)]
  | e :: rest => if h.sameKey e.1 k then (e.1, v) :: rest else e :: h.put rest k v

end Heap

/-! ## Building -/

/-- The nodes, the objects so far, the address of the object of each node that has one, and the nodes whose
    collections wait to be filled. -/
structure Builder where
  graph : Graph
  heap : Heap
  made : List (NodeId × Address)
  waiting : List (NodeId × Address)

namespace Builder

/-- The address of the one value that is not a number and has a word of its own. -/
def notANumber : Address := 0

/-- The object of a scalar at an address; what is no number gets the address as its mark. -/
def scalarAt (a : Address) : Value → Object
  | .float x => .scalar (.float (x.marked a))
  | v => .scalar v

/-- No object but the one value that is not a number. -/
def start (g : Graph) : Builder :=
  { graph := g, heap := #[.scalar (.float .noNumber)], made := [], waiting := [] }

/-- Add an object. -/
def add (b : Builder) (o : Object) : Address × Builder :=
  (b.heap.size, { b with heap := b.heap.push o })

/-- Note the object of a node. -/
def note (b : Builder) (n : NodeId) (a : Address) : Builder := { b with made := (n, a) :: b.made }

/-- Add an empty collection, to be filled later. -/
def postpone (b : Builder) (n : NodeId) (o : Object) : Address × Builder :=
  let (a, b) := b.add o
  (a, { b.note n a with waiting := b.waiting ++ [(n, a)] })

/-- The object of a scalar, or of a mapping that lends its text. -/
def scalar (b : Builder) (n : NodeId) (t : Tag) : Except Failure (Address × Builder) := do
  let s ← b.graph.scalarText n
  if t = .timestamp && !b.graph.isScalar n then throw (.mishap .wrongKind "expected a text")
  let v ← scalarValue t s
  if t = .float && isNotANumber s then return (notANumber, b.note n notANumber)
  let (a, b) := b.add (scalarAt b.heap.size v)
  return (a, b.note n a)

/-- The object of a node; a node has one only. -/
def object (b : Builder) (n : NodeId) : Except Failure (Address × Builder) :=
  match b.made.find? fun m => m.1 == n with
  | some (_, a) => .ok (a, b)
  | none =>
    match b.graph.tag n with
    | .sequence | .ordered | .pairs => .ok (b.postpone n (.list []))
    | .mapping => .ok (b.postpone n (.map []))
    | .set => .ok (b.postpone n (.set []))
    | .merge | .value | .other => .error Graph.unbuildable
    | t => b.scalar n t

/-- The objects of the items of a sequence. -/
def items (b : Builder) : List NodeId → Except Failure (List Address × Builder)
  | [] => .ok ([], b)
  | n :: rest => do
    let (a, b) ← b.object n
    let (more, b) ← b.items rest
    return (a :: more, b)

/-- The objects of the entries of a mapping. -/
def entries (b : Builder) (acc : List (Address × Address)) :
    List (NodeId × NodeId) → Except Failure (List (Address × Address) × Builder)
  | [] => .ok (acc, b)
  | (k, v) :: rest => do
    let (k, b) ← b.object k
    if !b.heap.isKey k then throw Graph.unbuildable
    let (v, b) ← b.object v
    b.entries (b.heap.put acc k v) rest

/-- The pairs of an ordered mapping, whose items are mappings of one entry. -/
def pairs (b : Builder) : List NodeId → Except Failure (List Address × Builder)
  | [] => .ok ([], b)
  | n :: rest =>
    match b.graph.shape n with
    | .mapping [(k, v)] => do
      let (k, b) ← b.object k
      let (v, b) ← b.object v
      let (a, b) := b.add (.pair k v)
      let (more, b) ← b.pairs rest
      return (a :: more, b)
    | _ => .error Graph.unbuildable

/-- What a collection holds. -/
def content (b : Builder) (n : NodeId) : Except Failure (Object × Builder) :=
  match b.graph.tag n, b.graph.shape n with
  | .sequence, .sequence ns => do
    let (as, b) ← b.items ns
    return (.list as, b)
  | .ordered, .sequence ns | .pairs, .sequence ns => do
    let (as, b) ← b.pairs ns
    return (.list as, b)
  | .mapping, .mapping _ => do
    let b := { b with graph := ← b.graph.flattened n }
    let (es, b) ← b.entries [] (b.graph.entries n)
    return (.map es, b)
  | .set, .mapping _ => do
    let b := { b with graph := ← b.graph.flattened n }
    let (es, b) ← b.entries [] (b.graph.entries n)
    return (.set (es.map (·.1)), b)
  | _, _ => .error Graph.unbuildable

/-- Fill the collections that wait, the oldest first. A node waits once, so fuel for every node suffices. -/
def run : Nat → Builder → Except Failure Builder
  | 0, b => .ok b
  | fuel + 1, b =>
    match b.waiting with
    | [] => .ok b
    | (n, a) :: rest => do
      let (o, b) ← { b with waiting := rest : Builder }.content n
      run fuel { b with heap := b.heap.setIfInBounds a o }

/-- The object of the root of a graph, with all that it holds. -/
def build (g : Graph) (root : NodeId) : Except Failure (Heap × Address) := do
  let (a, b) ← (start g).object root
  let b ← run (g.size + 1) b
  return (b.heap, a)

end Builder

/-! ## Unrolling -/

/-- The value of a document. `circular` says that something in it lies in itself, and `endless` that it does
    so without a pair between. -/
structure Document where
  value : Value
  circular : Bool
  endless : Bool
deriving Repr

namespace Document

/-- A document that nothing is odd about. -/
def plain (v : Value) : Document := ⟨v, false, false⟩

/-- The document that other ones make up. -/
def join (ds : List Document) (f : List Value → Value) : Document :=
  ⟨f (ds.map value), ds.any circular, ds.any endless⟩

/-- The value, if it has an end. -/
def finite (d : Document) : Except Failure Value :=
  if d.endless then .error (.mishap .tooDeep "the document lies in itself") else .ok d.value

/-- The value, if nothing in it lies in itself. -/
def simple (d : Document) : Except Failure Value :=
  if d.circular then .error (.mishap .tooDeep "the document lies in itself") else .ok d.value

end Document

/-- What stands for a collection inside itself. -/
def Object.mark : Object → Value
  | .scalar v => v
  | .list _ => .foreign "[...]" "[...]"
  | .pair .. => .foreign "(...)" "(...)"
  | .set _ => .foreign "set(...)" "set(...)"
  | .map _ => .foreign "\x7b...\x7d" "\x7b...\x7d"

namespace Heap

/-- An object as a value. `path` holds the collections around it, from the outermost pair on if it is
    `inside` one: lists and mappings around that are copied when a value is walked, pairs are not. -/
def unroll (h : Heap) : Nat → List Address → Bool → Address → Document
  | 0, _, _, _ => .plain .null
  | fuel + 1, path, inside, a =>
    match h[a]? with
    | none => .plain .null
    | some (.scalar v) => .plain v
    | some o =>
      if path.contains a then ⟨o.mark, true, !inside⟩
      else
        let within (as : List Address) : List Document := as.map (h.unroll fuel (a :: path) inside)
        match o with
        | .scalar v => .plain v
        | .list as => .join (within as) .list
        | .set as => .join (within as) (.set false)
        | .map es =>
          let keys := (within (es.map (·.1))).map (·.value)
          .join (within (es.map (·.2))) fun vs => .map (keys.zip vs)
        | .pair k v =>
          let path := if inside then a :: path else [a]
          .join [h.unroll fuel path true k, h.unroll fuel path true v] .tuple

/-- The document whose root is at an address. A path holds no address twice, neither up to the outermost
    pair nor from it on. -/
def document (h : Heap) (a : Address) : Document := h.unroll (2 * h.size + 2) [] false a

end Heap

end TopicReader.Yaml
