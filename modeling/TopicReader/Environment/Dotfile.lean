import TopicReader.Environment
import TopicReader.Settings.File

/-!
# `Environment.Dotfile` — variables from a file next to the program

## Contents
- **Keys.** `readKey?`: a bare or quoted name, with or without the word `export` in front.
- **Values.** `readValue?`: bare, in single quotes, or in double quotes with escapes.
- **Lines.** `Dotfile.bindings`: the bindings of a text, and the numbers of the lines that are none.
- **Expansion.** `Dotfile.expand`: the environment wins over earlier bindings.
- **Loading.** `Environment.withDotfile`: variables that are set already stay.
-/

namespace TopicReader

open TopicReader.Text

namespace Dotfile

/-- A blank inside a line. -/
def isInline (c : Char) : Bool := isBlank c && c != '\n' && c != '\r'

/-- The text without the blanks in front that are inside its line. -/
def skipInline (cs : List Char) : List Char := cs.dropWhile isInline

/-- A character that does not end a line. -/
def isLineChar (c : Char) : Bool := c != '\n' && c != '\r'

/-! ## Keys -/

/-- The word that may stand in front of a key. -/
def exportMark : List Char := "export".toList

/-- The text without the word in front, if blanks follow the word. -/
def dropExport (cs : List Char) : List Char :=
  if exportMark.isPrefixOf cs then
    match cs.drop exportMark.length with
    | c :: rest => if isInline c then skipInline (c :: rest) else cs
    | [] => cs
  else cs

/-- A character of a bare key. -/
def isKeyChar (c : Char) : Bool := c != '=' && c != '#' && !isBlank c

/-- A key that has at least one character. -/
def nonempty? (key rest : List Char) : Option (Option (List Char) × List Char) :=
  if key.isEmpty then none else some (some key, rest)

/-- The key at the front of a text, and the rest. A comment has no key. -/
def readKey? (cs : List Char) : Option (Option (List Char) × List Char) :=
  match cs with
  | '#' :: _ => some (none, cs)
  | c :: rest =>
    if c = apostrophe then
      match rest.dropWhile (· != apostrophe) with
      | _ :: after => nonempty? (rest.takeWhile (· != apostrophe)) after
      | [] => none
    else nonempty? (cs.takeWhile isKeyChar) (cs.dropWhile isKeyChar)
  | [] => none

/-! ## Values -/

/-- The text up to a closing quote. A quote after a backslash closes only if no other one does. -/
def readQuoted (quote : Char) (fallback : Option (List Char × List Char)) (acc : List Char) :
    List Char → Option (List Char × List Char)
  | [] => fallback
  | '\x5c' :: c :: rest =>
    if c = quote then readQuoted quote (some (('\x5c' :: acc).reverse, rest)) (c :: '\x5c' :: acc) rest
    else readQuoted quote fallback ('\x5c' :: acc) (c :: rest)
  | c :: rest => if c = quote then some (acc.reverse, rest) else readQuoted quote fallback (c :: acc) rest

/-- The escapes in double quotes. -/
def doubleEscapes : List (Char × Nat) :=
  [(backslash, 0x5c), (apostrophe, 0x27), (doubleQuote, 0x22), ('a', 0x7), ('b', 0x8), ('f', 0xc),
   ('n', 0xa), ('r', 0xd), ('t', 0x9), ('v', 0xb)]

/-- The escapes in single quotes. -/
def singleEscapes : List (Char × Nat) := [(backslash, 0x5c), (apostrophe, 0x27)]

/-- Replace escapes by what they stand for; other backslashes stay. -/
def unescape (escapes : List (Char × Nat)) : List Char → List Char
  | '\x5c' :: c :: rest =>
    match escapes.find? fun e => e.1 == c with
    | some e => Char.ofNat e.2 :: unescape escapes rest
    | none => '\x5c' :: unescape escapes (c :: rest)
  | c :: rest => c :: unescape escapes rest
  | [] => []

/-- The part of a bare value before a comment. -/
def beforeComment : List Char → List Char
  | [] => []
  | c :: rest => if isBlank c && rest.head? == some '#' then [] else c :: beforeComment rest

/-- The value at the front of a text, and the rest. -/
def readValue? (cs : List Char) : Option (List Char × List Char) :=
  match cs with
  | [] => some ([], [])
  | c :: rest =>
    if c = apostrophe then
      (readQuoted c none [] rest).map fun r => (unescape singleEscapes r.1, r.2)
    else if c = doubleQuote then
      (readQuoted c none [] rest).map fun r => (unescape doubleEscapes r.1, r.2)
    else some (trimRight (beforeComment (cs.takeWhile isLineChar)), cs.dropWhile isLineChar)

/-! ## Lines -/

/-- What a statement comes to: nothing, a key with or without a value, or an error; and the rest. -/
inductive Statement where
  | nothing
  | binding (key : String) (value : Option (List Char))
  | error
deriving DecidableEq, Repr

/-- The text after a comment, if there is one. -/
def skipComment (cs : List Char) : List Char :=
  match skipInline cs with
  | '#' :: rest => rest.dropWhile isLineChar
  | _ => cs

/-- The text after the end of a line. -/
def endLine? (cs : List Char) : Option (List Char) :=
  match skipInline cs with
  | [] => some []
  | '\r' :: '\n' :: rest => some rest
  | '\n' :: rest => some rest
  | '\r' :: rest => some rest
  | _ => none

/-- The text after the next line break. -/
def nextLine (cs : List Char) : List Char := (cs.dropWhile isLineChar).drop 1

/-- What follows a key: an equals sign and a value, or nothing. Without a value, the second part is where
    reading failed. -/
def readBound (cs : List Char) : Except (List Char) (Option (List Char) × List Char) :=
  match skipInline cs with
  | '=' :: rest =>
    match readValue? (skipInline rest) with
    | some (v, rest) => .ok (some v, rest)
    | none => .error (skipInline rest)
  | rest => .ok (none, rest)

/-- A statement with its key read. -/
def finish (key : Option (List Char)) (cs : List Char) : Statement × List Char :=
  match readBound cs with
  | .error rest => (.error, nextLine rest)
  | .ok (value, rest) =>
    let rest := skipComment rest
    match endLine? rest with
    | none => (.error, nextLine rest)
    | some after =>
      match key with
      | some k => (.binding (String.ofList k) value, after)
      | none => (.nothing, after)

/-- The statement at the front of a text, and the rest. -/
def statement (cs : List Char) : Statement × List Char :=
  match trimLeft cs with
  | [] => (.nothing, [])
  | cs =>
    let cs := dropExport cs
    match readKey? cs with
    | none => (.error, nextLine cs)
    | some (key, rest) => finish key rest

/-- The line breaks between a text and a rest of it. -/
def breaksBetween (cs rest : List Char) : Nat := (cs.take (cs.length - rest.length)).count '\n'

/-- The bindings of a text, and the numbers of the lines that are none. -/
def bindingsFrom (fuel line : Nat) (cs : List Char) : List (String × Option (List Char)) × List Nat :=
  match fuel, cs with
  | _, [] => ([], [])
  | 0, _ => ([], [])
  | fuel + 1, cs =>
    let (s, rest) := statement cs
    let (found, wrong) := bindingsFrom fuel (line + breaksBetween cs rest) rest
    match s with
    | .nothing => (found, wrong)
    | .binding k v => ((k, v) :: found, wrong)
    | .error => (found, line :: wrong)

/-- The bindings of a text, and the numbers of the lines that are none. -/
def bindings (text : String) : List (String × Option (List Char)) × List Nat :=
  bindingsFrom (text.toList.length + 1) 1 text.toList

/-! ## Expansion -/

/-- The reference at the front of a text; its name may be empty. -/
def reference? : List Char → Option Reference
  | '$' :: '\x7b' :: rest =>
    Reference.ofTail? (rest.takeWhile Reference.isNameChar) (rest.dropWhile Reference.isNameChar)
  | _ => none

/-- What a name stands for: the environment wins over bindings, and a binding without a value is empty. -/
def value (env : Environment) (bound : List (String × Option String)) (r : Reference) : List Char :=
  let name := String.ofList r.name
  match env.get? name with
  | some v => v.toList
  | none =>
    match bound.find? fun b => b.1 == name with
    | some b => (b.2.getD "").toList
    | none => r.fallback.getD []

/-- Replace the references of a text, after passing over `skip` characters. -/
def expandChars (env : Environment) (bound : List (String × Option String)) (skip : Nat) :
    List Char → List Char
  | [] => []
  | c :: rest =>
    match skip with
    | n + 1 => expandChars env bound n rest
    | 0 =>
      match reference? (c :: rest) with
      | some r => value env bound r ++ expandChars env bound (r.text.length - 1) rest
      | none => c :: expandChars env bound 0 rest

/-- Set a binding: in its old place if it is there, at the end otherwise. -/
def put (bound : List (String × Option String)) (key : String) (v : Option String) :
    List (String × Option String) :=
  match bound with
  | [] => [(key, v)]
  | b :: rest => if b.1 == key then (key, v) :: rest else b :: put rest key v

/-- The bindings with their references replaced, the later of one name winning. -/
def expand (env : Environment) (found : List (String × Option (List Char))) :
    List (String × Option String) :=
  found.foldl
    (fun bound b => put bound b.1 (b.2.map fun v => String.ofList (expandChars env bound 0 v))) []

end Dotfile

/-! ## Loading -/

namespace Environment

/-- A variable that the system can hold. -/
def admits (name value : String) : Bool :=
  !name.toList.contains '=' && !name.toList.contains '\x00' && !value.toList.contains '\x00'

/-- Set what is bound to a value and not set already. -/
def bindAll (env : Environment) : List (String × Option String) → Except Failure Environment
  | [] => .ok env
  | (_, none) :: rest => bindAll env rest
  | (name, some v) :: rest =>
    if (env.get? name).isSome then bindAll env rest
    else if admits name v then bindAll (env.putNew name v) rest
    else .error (.mishap .wrongValue "embedded null byte")

/-- The name of the file. -/
def dotfileName : String := ".env"

/-- The environment with the variables of the file, and the numbers of the lines that bind nothing. -/
def withDotfile (env : Environment) (files : FileStore) : Except Failure (Environment × List Nat) :=
  match files.lookup dotfileName with
  | .file bytes => do
    let text ← FileSettings.textOf bytes
    let (found, wrong) := Dotfile.bindings text
    return (← env.bindAll (Dotfile.expand env found), wrong)
  | _ => .ok (env, [])

end Environment

end TopicReader
