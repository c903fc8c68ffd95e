import TopicReader.Environment
import TopicReader.Journal.Basic
import TopicReader.Path
import TopicReader.Property
import TopicReader.Text.Feed
import TopicReader.Yaml.Document

/-!
# `Settings.File` — the settings that a file holds

## Contents
- **Text files.** `textOf`: the text of some bytes, with one kind of line break.
- **Documents.** `readDocument`: the document of a file, an empty mapping where there is nothing.
- **Sections.** `sectionOf` and `pairsOf`: what the parts of a document must look like.
- **The file.** `FileSettings`, and `load`, which logs what it does.

A file that is there can be read. How deep collections may lie in each other is bounded where a document is read; the
stack that later steps need is left out. The items of a set are walked in the order in which its value has them.
-/

namespace TopicReader

open TopicReader.Text

/-- The settings that a file holds. -/
structure FileSettings where
  connection : Mapping
  properties : Fields
deriving Repr, Inhabited

namespace FileSettings

/-- No settings. -/
def empty : FileSettings := ⟨[], []⟩

/-! ## Text files -/

/-- The text of some bytes. -/
def textOf (bytes : List UInt8) : Except Failure String :=
  match Utf8.decode? bytes with
  | some s => .ok (String.ofList (plainBreaks s.toList))
  | none => .error (.mishap .undecodable "invalid bytes in a text")

/-! ## Documents -/

/-- The system does not look for a name that is too long. -/
def longName (path : String) : Failure :=
  .mishap .longName ("[Errno 36] File name too long: " ++ quoteText path)

/-- The document of a file; an empty mapping where there is none, or none that counts. -/
def readDocument (files : FileStore) (path : String) : Except Failure Yaml.Document := do
  match files.lookup path with
  | .missing => return .plain (.map [])
  | .unnameable => throw (longName path)
  | .directory => throw (.mishap .directory ("[Errno 21] Is a directory: " ++ quoteText path))
  | .file bytes =>
    let d ← Yaml.load files.depth bytes
    return if d.value.truthy then d else .plain (.map [])

/-! ## Sections -/

/-- A value has no member of this name. -/
def noMember (v : Value) (member : String) : Failure :=
  .mishap .noSuchMember ("'" ++ v.kindWord ++ "' object has no attribute '" ++ member ++ "'")

/-- The value of a section of a mapping; null and other values that count as nothing give null. -/
def sectionOf (v : Value) (name : String) : Except Failure Value :=
  match v with
  | .map es =>
    let part := (Mapping.getText? es name).getD .null
    .ok (if part.truthy then part else .null)
  | v => .error (noMember v "get")

mutual

/-- The first value inside that keeps a value from being a key of a mapping, if there is one. -/
def unkeyed? (v : Value) : Option Value :=
  match v with
  | .list _ | .map _ | .set false _ | .bytes true _ => some v
  | .tuple xs => firstUnkeyed? xs
  | _ => none

/-- The first one of a sequence. -/
def firstUnkeyed? (xs : List Value) : Option Value :=
  match xs with
  | [] => none
  | x :: rest => (unkeyed? x).or (firstUnkeyed? rest)

end

/-- The items that a value has when it is walked. -/
def itemsOf? : Value → Option (List Value)
  | .text s => some (s.toList.map fun c => .text (String.ofList [c]))
  | .bytes _ bs => some (bs.map fun b => .int b.toNat)
  | .list xs => some xs
  | .tuple xs => some xs
  | .set _ xs => some xs
  | .map es => some (es.map (·.1))
  | _ => none

/-- An item as a key and a value, at its place. -/
def pairOf (place : Nat) (v : Value) : Except Failure (Value × Value) :=
  match itemsOf? v with
  | none =>
    .error (.mishap .wrongKind
      ("cannot convert dictionary update sequence element #" ++ place.repr ++ " to a sequence"))
  | some [k, w] =>
    match unkeyed? k with
    | none => .ok (k, w)
    | some u => .error (.mishap .wrongKind ("unhashable type: '" ++ u.kindWord ++ "'"))
  | some items =>
    .error (.mishap .wrongValue
      ("dictionary update sequence element #" ++ place.repr ++ " has length " ++
        items.length.repr ++ "; 2 is required"))

/-- Items as the entries of a mapping. -/
def pairsFrom (place : Nat) (m : Mapping) : List Value → Except Failure Mapping
  | [] => .ok m
  | v :: rest => do
    let (k, w) ← pairOf place v
    pairsFrom (place + 1) (m.put k w) rest

/-- A value as a mapping: one already, or items that are pairs. -/
def pairsOf (v : Value) : Except Failure Mapping :=
  match v with
  | .null => .ok []
  | .map es => .ok es
  | v =>
    match itemsOf? v with
    | some items => pairsFrom 0 [] items
    | none => .error (.mishap .wrongKind ("'" ++ v.kindWord ++ "' object is not iterable"))

/-- The entries of a value that must be a mapping. -/
def entriesOf (v : Value) : Except Failure Mapping :=
  match v with
  | .null => .ok []
  | .map es => .ok es
  | v => .error (noMember v "items")

/-- The properties that entries set, the later of one name winning. -/
def propertiesOf (acc : Fields) : Mapping → Except Failure Fields
  | [] => .ok acc
  | (name, v) :: rest => do
    let (key, v) ← Property.ofPair (← name.showChecked) v
    propertiesOf (acc.put key v) rest

/-! ## The file -/

/-- The origin of the log records. -/
def origin : String := "config.config"

/-- A document that cannot be read is a problem with the settings. -/
def documentAt (files : FileStore) (path : String) : Except Failure Yaml.Document :=
  match readDocument files path with
  | .error (.mishap (.malformedMarkup stage) t) =>
    .error (.caused (.misconfigured (.fileMalformed path)) (.mishap (.malformedMarkup stage) t))
  | r => r

/-- The section of a document that holds settings. -/
def kafkaSection (path : String) (v : Value) : Except Failure Value :=
  match v with
  | .map es =>
    match Mapping.getText? es "kafka" with
    | some part => .ok (if part.truthy then part else .map [])
    | none => .error (.misconfigured (.sectionMissing path))
  | _ => .error (.misconfigured (.sectionMissing path))

/-- The settings of a document. -/
def ofDocument (path : String) (v : Value) : Except Failure FileSettings := do
  let kafka ← kafkaSection path v
  let connection ← pairsOf (← sectionOf kafka "connection")
  let properties ← propertiesOf [] (← entriesOf (← sectionOf kafka "consumer"))
  return ⟨connection, properties⟩

/-- The path of the file to read: the one given, else the one that the environment names. -/
def pathOf (path : Option String) (env : Environment) : Option String :=
  match path with
  | some p => some (Path.normalize p)
  | none =>
    match env.get? "KFC_CONFIG" with
    | some p => if p = "" then none else some (Path.normalize p)
    | none => none

/-- Read the settings of a file. A file that is named must exist. -/
def load (path : Option String) (env : Environment) (files : FileStore) : Logged FileSettings :=
  match pathOf path env with
  | none => return .empty
  | some p =>
    match files.lookup p with
    | .missing => throw (.misconfigured (.fileMissing p))
    | .unnameable => throw (longName p)
    | _ => do
      Logged.write Level.debug origin ("Loading configuration from file: " ++ p) []
      let v ← (← documentAt files p).finite
      let s ← ofDocument p (v.expand env)
      Logged.write Level.debug origin "Configuration loaded"
        [("bootstrap_servers", (s.connection.getText? "bootstrap_servers").getD .null)]
      return s

end FileSettings

end TopicReader
