import TopicReader.Yaml.Graph
import TopicReader.Yaml.Token.Stream

/-!
# `Yaml.Graph.Draft` — the graph of a text in the making

Tokens are asked for one at a time, so a fault in the text is met only if no rule is broken in front of it.
How deep collections may lie in each other depends on the stack that is left to the reader, and is an argument here.

## Contents
- **The type.** `Draft`: the tokens to come, the anchors, the handles for tags, and the nodes so far.
- **Properties.** Anchors and tags in front of a node.
- **Nodes.** One function for each production of the grammar, which all spend one unit of fuel for each call.
- **Documents.** `Graph.ofSource`: the one document of a text, if it has one.
-/

namespace TopicReader.Yaml

/-- The tokens to come, the nodes that anchors name, the handles that tags may use, and the nodes so far. -/
structure Draft where
  stream : Stream
  anchors : List (String × NodeId)
  handles : List (String × String)
  graph : Graph
deriving Repr

namespace Draft

/-- The failure of tokens that make no document. -/
def unparsable : Failure := malformed .parsing

/-- The failure of anchors and aliases that name no node. -/
def unnamed : Failure := malformed .composing

/-- The handles that every document knows. -/
def plainHandles : List (String × String) := [("!", "!"), ("!!", Tag.home)]

/-- The next token. -/
def peek (d : Draft) : Except Failure (Token × Draft) := do
  let (t, s) ← d.stream.peek
  return (t, { d with stream := s })

/-- Pass a token that was looked at. -/
def pop (d : Draft) : Draft := { d with stream := d.stream.pop }

/-- Pass a token that must be the next one. -/
def expect (d : Draft) (t : Token) : Except Failure Draft := do
  let (next, d) ← d.peek
  if next = t then return d.pop else throw unparsable

/-! ## Properties -/

/-- What may stand in front of a node. -/
structure Properties where
  anchor : Option String
  tag : Option String

/-- The full name of a tag. -/
def tagName (d : Draft) (handle : Option String) (suffix : String) : Except Failure String :=
  match handle with
  | none => .ok suffix
  | some h =>
    match d.handles.find? fun e => e.1 == h with
    | some e => .ok (e.2 ++ suffix)
    | none => .error unparsable

/-- Take the anchor in front, if there is one. -/
def takeAnchor (d : Draft) : Except Failure (Option String × Draft) := do
  match ← d.peek with
  | (.anchor name, d) => return (some name, d.pop)
  | (_, d) => return (none, d)

/-- Take the tag in front, if there is one: its handle and its suffix. -/
def takeTag (d : Draft) : Except Failure (Option (Option String × String) × Draft) := do
  match ← d.peek with
  | (.tag handle suffix, d) => return (some (handle, suffix), d.pop)
  | (_, d) => return (none, d)

/-- Take a tag and an anchor, in either order. A handle must be known. -/
def takeProperties (d : Draft) : Except Failure (Properties × Draft) := do
  let (anchor, d) ← d.takeAnchor
  let (tag, d) ← d.takeTag
  let (anchor, d) ← if anchor.isSome || tag.isNone then pure (anchor, d) else d.takeAnchor
  match tag with
  | none => return (⟨anchor, none⟩, d)
  | some (handle, suffix) => return (⟨anchor, some (← d.tagName handle suffix)⟩, d)

/-- The kind of a scalar: as its tag says, else as its text implies if it is plain. -/
def scalarTag (plain : Bool) (tag : Option String) (text : String) : Tag :=
  match tag with
  | none => if plain then Tag.ofPlain text else .text
  | some name => if name = "!" then Tag.ofPlain text else Tag.ofName name

/-- The kind of a collection. -/
def collectionTag (usual : Tag) (tag : Option String) : Tag :=
  match tag with
  | none => usual
  | some name => if name = "!" then usual else Tag.ofName name

/-! ## Nodes -/

/-- Add a node. -/
def add (d : Draft) (n : Node) : NodeId × Draft :=
  (d.graph.size, { d with graph := d.graph.push n })

/-- Add the node that stands where nothing is written. -/
def addAbsent (d : Draft) : NodeId × Draft := d.add ⟨.null, .scalar ""⟩

/-- Add a node that an anchor may name; an anchor names one node only. -/
def addNamed (d : Draft) (p : Properties) (n : Node) : Except Failure (NodeId × Draft) :=
  let (id, more) := d.add n
  match p.anchor with
  | none => .ok (id, more)
  | some name =>
    if d.anchors.any fun a => a.1 == name then .error unnamed
    else .ok (id, { more with anchors := (name, id) :: d.anchors })

/-- Say what a collection is made of, now that it is complete. -/
def complete (d : Draft) (id : NodeId) (s : Shape) : Draft :=
  { d with graph := d.graph.setShape id s }

/-- The node of an alias. -/
def aliased (d : Draft) (name : String) : Except Failure NodeId :=
  match d.anchors.find? fun a => a.1 == name with
  | some (_, id) => .ok id
  | none => .error unnamed

/-- The forms in which a collection is written. `loose` sequences have no indentation of their own. -/
inductive Form where
  | loose
  | blockSequence
  | blockMapping
  | flowSequence
  | flowMapping
deriving DecidableEq, Repr

/-- The form of the collection that a token starts. In the block style it may be a block, and where
    `loose` an entry without indentation. -/
def Form.ofToken? (block loose : Bool) : Token → Option Form
  | .entry => if loose then some .loose else none
  | .flowSequence => some .flowSequence
  | .flowMapping => some .flowMapping
  | .blockSequence => if block then some .blockSequence else none
  | .blockMapping => if block then some .blockMapping else none
  | _ => none

/-- The collection of a form before it has any content. -/
def Form.start (f : Form) (tag : Option String) : Node :=
  match f with
  | .blockMapping | .flowMapping => ⟨collectionTag .mapping tag, .mapping []⟩
  | _ => ⟨collectionTag .sequence tag, .sequence []⟩

mutual

/-- A node, at a depth of which this much is left. -/
def node (fuel depth : Nat) (block loose : Bool) (d : Draft) : Except Failure (NodeId × Draft) :=
  match fuel with
  | 0 => .error unparsable
  | fuel + 1 => do
    match ← d.peek with
    | (.alias name, d) => return (← d.pop.aliased name, d.pop)
    | (_, d) =>
      let (p, d) ← d.takeProperties
      let (t, d) ← d.peek
      match t, Form.ofToken? block loose t with
      | .scalar plain text, _ => d.pop.addNamed p ⟨scalarTag plain p.tag text, .scalar text⟩
      | _, some form =>
        let (id, d) ← d.addNamed p (form.start p.tag)
        let (s, d) ← content fuel depth form d
        return (id, d.complete id s)
      | _, none =>
        if p.anchor.isSome || p.tag.isSome then d.addNamed p ⟨scalarTag true p.tag "", .scalar ""⟩
        else throw unparsable

/-- The content of a collection, and its end. -/
def content (fuel depth : Nat) (form : Form) (d : Draft) : Except Failure (Shape × Draft) :=
  match fuel, depth with
  | 0, _ => .error unparsable
  | _, 0 => .error (.mishap .tooDeep "collections in each other without an end")
  | fuel + 1, depth + 1 => do
    match form with
    | .loose =>
      let (items, d) ← looseItems fuel depth d
      return (.sequence items, d)
    | .blockSequence =>
      let (items, d) ← blockItems fuel depth d.pop
      return (.sequence items, d)
    | .blockMapping =>
      let (entries, d) ← blockEntries fuel depth d.pop
      return (.mapping entries, d)
    | .flowSequence =>
      let (items, d) ← flowItems fuel depth true d.pop
      return (.sequence items, d)
    | .flowMapping =>
      let (entries, d) ← flowEntries fuel depth true d.pop
      return (.mapping entries, d)

/-- A node, unless one of the given tokens says that there is none. -/
def nodeUnless (fuel depth : Nat) (block loose : Bool) (ends : List Token) (d : Draft) :
    Except Failure (NodeId × Draft) :=
  match fuel with
  | 0 => .error unparsable
  | fuel + 1 => do
    let (t, d) ← d.peek
    if ends.contains t then return d.addAbsent else node fuel depth block loose d

/-- The items of a block sequence, and its end. -/
def blockItems (fuel depth : Nat) (d : Draft) : Except Failure (List NodeId × Draft) :=
  match fuel with
  | 0 => .error unparsable
  | fuel + 1 => do
    let (t, d) ← d.peek
    if t = .entry then
      let (item, d) ← nodeUnless fuel depth true false [.entry, .blockEnd] d.pop
      let (items, d) ← blockItems fuel depth d
      return (item :: items, d)
    else return ([], ← d.expect .blockEnd)

/-- The items of a sequence without indentation of its own. -/
def looseItems (fuel depth : Nat) (d : Draft) : Except Failure (List NodeId × Draft) :=
  match fuel with
  | 0 => .error unparsable
  | fuel + 1 => do
    let (t, d) ← d.peek
    if t = .entry then
      let (item, d) ← nodeUnless fuel depth true false [.entry, .key, .value, .blockEnd] d.pop
      let (items, d) ← looseItems fuel depth d
      return (item :: items, d)
    else return ([], d)

/-- The entries of a block mapping, and its end. -/
def blockEntries (fuel depth : Nat) (d : Draft) :
    Except Failure (List (NodeId × NodeId) × Draft) :=
  match fuel with
  | 0 => .error unparsable
  | fuel + 1 => do
    let (t, d) ← d.peek
    if t = .key then
      let ends : List Token := [.key, .value, .blockEnd]
      let (k, d) ← nodeUnless fuel depth true true ends d.pop
      let (v, d) ← valueAfter fuel depth true ends d
      let (entries, d) ← blockEntries fuel depth d
      return ((k, v) :: entries, d)
    else return ([], ← d.expect .blockEnd)

/-- The value after a key, if there is a mark for it. -/
def valueAfter (fuel depth : Nat) (block : Bool) (ends : List Token) (d : Draft) :
    Except Failure (NodeId × Draft) :=
  match fuel with
  | 0 => .error unparsable
  | fuel + 1 => do
    let (t, d) ← d.peek
    if t = .value then nodeUnless fuel depth block block ends d.pop else return d.addAbsent

/-- The items of a flow sequence, and its end. A key makes an item a mapping of one entry. -/
def flowItems (fuel depth : Nat) (first : Bool) (d : Draft) :
    Except Failure (List NodeId × Draft) :=
  match fuel with
  | 0 => .error unparsable
  | fuel + 1 => do
    let (t, d) ← d.peek
    if t = .flowSequenceEnd then return ([], d.pop)
    let d ← if first then pure d else d.expect .comma
    let (t, d) ← d.peek
    if t = .flowSequenceEnd then return ([], d.pop)
    let (item, d) ← if t = .key then pairItem fuel depth d else node fuel depth false false d
    let (items, d) ← flowItems fuel depth false d
    return (item :: items, d)

/-- An item of a flow sequence that is a mapping of one entry. -/
def pairItem (fuel depth : Nat) (d : Draft) : Except Failure (NodeId × Draft) :=
  match fuel, depth with
  | 0, _ => .error unparsable
  | _, 0 => .error (.mishap .tooDeep "collections in each other without an end")
  | fuel + 1, depth + 1 => do
    let (id, d) := d.add ⟨.mapping, .mapping []⟩
    let (k, d) ← nodeUnless fuel depth false false [.value, .comma, .flowSequenceEnd] d.pop
    let (v, d) ← valueAfter fuel depth false [.comma, .flowSequenceEnd] d
    return (id, d.complete id (.mapping [(k, v)]))

/-- The entries of a flow mapping, and its end. -/
def flowEntries (fuel depth : Nat) (first : Bool) (d : Draft) :
    Except Failure (List (NodeId × NodeId) × Draft) :=
  match fuel with
  | 0 => .error unparsable
  | fuel + 1 => do
    let (t, d) ← d.peek
    if t = .flowMappingEnd then return ([], d.pop)
    let d ← if first then pure d else d.expect .comma
    let (t, d) ← d.peek
    if t = .flowMappingEnd then return ([], d.pop)
    let (entry, d) ←
      if t = .key then do
        let (k, d) ← nodeUnless fuel depth false false [.value, .comma, .flowMappingEnd] d.pop
        let (v, d) ← valueAfter fuel depth false [.comma, .flowMappingEnd] d
        pure ((k, v), d)
      else do
        let (k, d) ← node fuel depth false false d
        let (v, d) := d.addAbsent
        pure ((k, v), d)
    let (entries, d) ← flowEntries fuel depth false d
    return (entry :: entries, d)

end

/-! ## Documents -/

/-- The fuel for the nodes of a text, of which a character makes at most five tokens, and a token at most
    three calls. -/
def fuelOf (d : Draft) : Nat := 16 * (d.stream.size + 4)

/-- The directives in front of a document: one version at most, and every handle once. -/
def takeDirectives (seen : Bool) : Nat → Draft → Except Failure Draft
  | 0, d => .ok d
  | fuel + 1, d => do
    match ← d.peek with
    | (.directive (.version major), d) =>
      if seen || major != 1 then throw unparsable else takeDirectives true fuel d.pop
    | (.directive (.handle name tags), d) =>
      if d.handles.any fun h => h.1 == name then throw unparsable
      else takeDirectives seen fuel { d.pop with handles := d.handles ++ [(name, tags)] }
    | (.directive .ignored, d) => takeDirectives seen fuel d.pop
    | (_, d) => return { d with handles := d.handles ++ plainHandles }

/-- The directives and the mark in front of a document. -/
def takeStart (d : Draft) : Except Failure Draft := do
  (← takeDirectives false d.fuelOf { d with handles := [] }).expect .documentStart

/-- Is this token the end of a document that holds nothing? -/
def endsContent : Token → Bool
  | .directive _ | .documentStart | .documentEnd | .streamEnd => true
  | _ => false

/-- The root of the first document, if the text has one. Collections may lie in each other up to a depth. -/
def document (depth : Nat) (d : Draft) : Except Failure (Option NodeId × Draft) := do
  let (t, d) ← d.peek
  match t with
  | .streamEnd => return (none, d)
  | .directive _ | .documentStart =>
    let d ← d.takeStart
    let (t, d) ← d.peek
    let (root, d) ←
      if endsContent t then pure d.addAbsent else node d.fuelOf depth true false d
    return (some root, d)
  | _ =>
    let (root, d) ← node d.fuelOf depth true false { d with handles := plainHandles }
    return (some root, d)

/-- Pass the marks at the end of a document. -/
def skipEnds : Nat → Draft → Except Failure Draft
  | 0, d => .ok d
  | fuel + 1, d => do
    match ← d.peek with
    | (.documentEnd, d) => skipEnds fuel d.pop
    | (_, d) => return d

/-- Make sure that no second document follows. -/
def finish (d : Draft) : Except Failure Unit := do
  let d ← skipEnds d.fuelOf d
  let (t, d) ← d.peek
  if t = .streamEnd then return ()
  let _ ← d.takeStart
  throw unnamed

end Draft

/-- The nodes of the one document of a text, and the root among them, if it has a document. -/
def Graph.ofSource (depth : Nat) (s : Source) : Except Failure (Option (Graph × NodeId)) := do
  let d : Draft :=
    { stream := ← Stream.start s, anchors := [], handles := [], graph := #[] }
  match ← d.document depth with
  | (none, _) => return none
  | (some root, d) =>
    d.finish
    return some (d.graph, root)

end TopicReader.Yaml
