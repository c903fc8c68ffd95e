import TopicReader.Text.Blank

/-!
# `Path` — file paths as text, and a small file store

## Contents
- **Normal form.** `Path.normalize`: empty and `.` components are dropped, `..` is kept, and exactly two
  leading slashes differ from one.
- **Joining.** `Path.join`, `Path.fileName`.
- **Limits.** `Path.isLongName` and `Path.isLong`: names that the system refuses to look up.
- **A store.** `FileStore`: files below the working directory by path, what a path leads to there, and what
  keeps a new file from standing at one (`Obstacle`).

Every file of a store can be read, and no two names lead to one file.
-/

namespace TopicReader

open TopicReader.Text

namespace Path

/-- What a path starts with: nothing, one slash or exactly two. -/
def rootOf (cs : List Char) : List Char :=
  match cs with
  | '/' :: '/' :: '/' :: _ => ['/']
  | '/' :: '/' :: _ => ['/', '/']
  | '/' :: _ => ['/']
  | _ => []

/-- The components of a path that name something. -/
def components (cs : List Char) : List (List Char) :=
  (splitWhere (· == '/') cs).filter fun part => !part.isEmpty && part != ['.']

/-- A path as its parts in order: its root, if it has one, then its components. -/
def parts (cs : List Char) : List (List Char) :=
  match rootOf cs with
  | [] => components cs
  | root => root :: components cs

/-- Components with single slashes between them. -/
def joinParts : List (List Char) → List Char
  | [] => []
  | [part] => part
  | part :: parts => part ++ '/' :: joinParts parts

/-- The normal form of a path; the empty path is `.`. -/
def normalize (s : String) : String :=
  let cs := s.toList
  let whole := rootOf cs ++ joinParts (components cs)
  if whole.isEmpty then "." else String.ofList whole

/-- A name below a directory; a directory that ends with a slash gets no other one. -/
def join (directory name : String) : String :=
  if directory.toList.getLast?.all (· == '/') then normalize (directory ++ name)
  else normalize (directory ++ "/" ++ name)

/-- What stands after the last slash. -/
def fileName (s : String) : String :=
  String.ofList (s.toList.reverse.takeWhile (· != '/')).reverse

/-! ## Limits -/

/-- The number of bytes of a text in a name. -/
def byteCount (cs : List Char) : Nat := cs.foldl (fun n c => n + c.utf8Size) 0

/-- Is a component longer than the name of a file may be? -/
def isLongName (part : List Char) : Bool := 255 < byteCount part

/-- Is a path longer than the system takes? The byte at its end counts. -/
def isLong (cs : List Char) : Bool := 4096 ≤ byteCount cs

end Path

/-- What a path leads to. The system refuses to look for names that are too long. -/
inductive PathTarget where
  | missing
  | directory
  | file (contents : List UInt8)
  | unnameable
deriving Repr, DecidableEq

/-- The files below the working directory, by normal path. `depth` is how deep the collections of a document in
    one of them may lie in each other before the stack of its reader is used up. -/
structure FileStore where
  files : List (String × List UInt8)
  depth : Nat
deriving Repr, Inhabited

namespace FileStore

/-- The components of every file. -/
def layout (fs : FileStore) : List (List (List Char) × List UInt8) :=
  fs.files.map fun f => (Path.components f.1.toList, f.2)

/-- What a list of components below the working directory leads to. -/
def entryAt (fs : FileStore) (parts : List (List Char)) : PathTarget :=
  match fs.layout.find? fun f => f.1 == parts with
  | some f => .file f.2
  | none =>
    if parts.isEmpty || fs.layout.any fun f => parts.isPrefixOf f.1 then .directory else .missing

/-- Walk the components from a directory outside the working directory, where nothing has a name. -/
def outside : List (List Char) → PathTarget
  | [] => .directory
  | part :: rest =>
    if part = ['.', '.'] then outside rest
    else if Path.isLongName part then .unnameable else .missing

/-- Walk the components from a directory; `..` leads one directory up. -/
def walk (fs : FileStore) (here : List (List Char)) : List (List Char) → PathTarget
  | [] => fs.entryAt here
  | part :: rest =>
    match fs.entryAt here with
    | .directory =>
      if part = ['.', '.'] then
        if here.isEmpty then outside rest else fs.walk here.dropLast rest
      else if Path.isLongName part then .unnameable
      else fs.walk (here ++ [part]) rest
    | _ => .missing

/-- The file with a normal path. -/
def named? (fs : FileStore) (path : String) : Option (List UInt8) :=
  (fs.files.find? fun f => Path.normalize f.1 == Path.normalize path).map (·.2)

/-- What a path leads to. No path holds a zero. -/
def lookup (fs : FileStore) (path : String) : PathTarget :=
  let cs := path.toList
  if cs.any (·.toNat = 0) then .missing
  else if Path.isLong cs then .unnameable
  else
    match fs.named? path with
    | some bytes => .file bytes
    | none =>
      let parts := Path.components cs
      if (Path.rootOf cs).isEmpty then fs.walk [] parts else outside parts

end FileStore

/-- What keeps a new file from standing at a path: a directory is there, or a file where a directory is
    needed, right above it or further up, or a name is too long. -/
inductive Obstacle where
  | directory
  | fileAbove
  | fileFurtherUp
  | longName
deriving Repr, DecidableEq

namespace FileStore

/-- Do the first components of a path lead to a file? -/
def stopsAt (fs : FileStore) (cs : List Char) (count : Nat) : Bool :=
  match fs.lookup (String.ofList (Path.rootOf cs ++ Path.joinParts ((Path.components cs).take count))) with
  | .file _ => true
  | _ => false

/-- What keeps a new file from standing at a path, if anything does. -/
def obstacle? (fs : FileStore) (path : String) : Option Obstacle :=
  let parts := Path.components path.toList
  let above := parts.length - 1
  if fs.lookup path = .directory then some .directory
  else if fs.stopsAt path.toList above then some .fileAbove
  else if (List.range above).any (fs.stopsAt path.toList) then some .fileFurtherUp
  else if Path.isLong path.toList ∨ parts.any Path.isLongName then some .longName
  else if parts.getLast? = some ['.', '.'] then some .directory
  else none

end FileStore

end TopicReader
