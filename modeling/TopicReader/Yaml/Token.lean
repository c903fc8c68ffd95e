import TopicReader.Number.Whole
import TopicReader.Text.Utf8
import TopicReader.Yaml.Scalar

/-!
# `Yaml.Token` — the tokens of a document, and those among them that have a form of their own

## Contents
- **The type.** `Token`.
- **Names.** `Token.anchorName`: anchors and aliases.
- **Tags.** `Token.tag`: a handle, if any, and a suffix with percent escapes.
- **Directives.** `Token.directive`: the version, a handle for tags, or one that is ignored.
-/

namespace TopicReader.Yaml

open TopicReader.Text
open Scalar (unscannable hexDigits hexNumber passLineEnd)

/-- A directive in front of a document. -/
inductive Directive where
  | version (major : Int)
  | handle (name tags : String)
  | ignored
deriving DecidableEq, Repr

/-- A token. `scalar` says whether its text was plain. -/
inductive Token where
  | directive (d : Directive)
  | documentStart
  | documentEnd
  | streamEnd
  | blockSequence
  | blockMapping
  | blockEnd
  | flowSequence
  | flowSequenceEnd
  | flowMapping
  | flowMappingEnd
  | entry
  | comma
  | key
  | value
  | alias (name : String)
  | anchor (name : String)
  | tag (handle : Option String) (suffix : String)
  | scalar (plain : Bool) (text : String)
deriving DecidableEq, Repr

namespace Token

/-- A character of a name. -/
def isNameChar (c : Char) : Bool := c.isAlphanum || c == '-' || c == '_'

/-- The name of an anchor or an alias; the cursor is after its mark. -/
def anchorName (c : Cursor) : Except Failure (String × Cursor) := do
  let name := c.rest.takeWhile isNameChar
  let c ← c.advance name.length
  let ends := isGap c.here || "?:,]\x7d%@".toList.contains c.here || c.here.toNat == 0x60
  if name.isEmpty || !ends then throw unscannable else return (String.ofList name, c)

/-! ## Tags -/

/-- A character of a tag, where percent signs escape. -/
def isTagChar (c : Char) : Bool :=
  c.isAlphanum || "-;/?:@&=+$,_.!~*()[]%".toList.contains c || c == apostrophe

/-- The bytes of a run of percent escapes. -/
def percentBytes : Nat → Cursor → List UInt8 → Except Failure (List UInt8 × Cursor)
  | 0, c, acc => .ok (acc, c)
  | fuel + 1, c, acc => do
    if c.here == '%' then
      let c ← c.next
      let digits ← hexDigits 2 c
      percentBytes fuel (← c.advance 2) (acc ++ [UInt8.ofNat (hexNumber digits)])
    else return (acc, c)

/-- The text of a tag. -/
def tagText : Nat → Cursor → List Char → Except Failure (List Char × Cursor)
  | 0, c, acc => .ok (acc, c)
  | fuel + 1, c, acc => do
    if c.here == '%' then
      let (bytes, c) ← percentBytes c.rest.length c []
      match Utf8.decode? bytes with
      | some s => tagText fuel c (acc ++ s.toList)
      | none => throw unscannable
    else if isTagChar c.here then tagText fuel (← c.next) (acc ++ [c.here])
    else return (acc, c)

/-- The text of a tag, which may not be empty. -/
def someTagText (c : Cursor) : Except Failure (String × Cursor) := do
  let (text, c) ← tagText c.rest.length c []
  if text.isEmpty then throw unscannable else return (String.ofList text, c)

/-- The handle of a tag: an exclamation mark, or a name between two of them. -/
def tagHandle (c : Cursor) : Except Failure (String × Cursor) := do
  if c.here != '!' then throw unscannable
  let c ← c.next
  let name := c.rest.takeWhile isNameChar
  let c ← c.advance name.length
  if c.here == '!' then return (String.ofList ('!' :: name ++ ['!']), ← c.next)
  else if name.isEmpty && c.here == ' ' then return ("!", c)
  else throw unscannable

/-- A tag ends before a space, a line break or the end. -/
def endTag (handle : Option String) (suffix : String) (c : Cursor) : Except Failure (Token × Cursor) :=
  if isSpaceOrEnd c.here then .ok (.tag handle suffix, c) else .error unscannable

/-- A tag; the cursor is at its exclamation mark. -/
def tagAt (c : Cursor) : Except Failure (Token × Cursor) := do
  let second ← c.ahead 1
  if second == '<' then
    let (suffix, c) ← someTagText (← c.advance 2)
    if c.here == '>' then endTag none suffix (← c.next) else throw unscannable
  else if isGap second then endTag none "!" (← c.next)
  else
    let word := (c.rest.drop 1).takeWhile fun ch => !isSpaceOrEnd ch
    let (handle, c) ←
      if word.contains '!' then tagHandle c
      else do
        let _ ← c.ahead (word.length + 1)
        pure ("!", ← c.next)
    let (suffix, c) ← someTagText c
    endTag (some handle) suffix c

/-! ## Directives -/

/-- A number of a version. -/
def versionNumber (c : Cursor) : Except Failure (Int × Cursor) := do
  let digits := c.rest.takeWhile isAsciiDigit
  let _ ← c.ahead digits.length
  if digits.isEmpty then throw unscannable
  match Whole.readIn 10 (String.ofList digits) with
  | .ok n => return (n, ← c.advance digits.length)
  | .error _ => throw (.mishap .wrongValue "too many digits")

/-- The version of a version directive. -/
def versionDirective (c : Cursor) : Except Failure (Directive × Cursor) := do
  let (major, c) ← versionNumber (← c.skipWhile (· == ' '))
  if c.here != '.' then throw unscannable
  let (_, c) ← versionNumber (← c.next)
  if isSpaceOrEnd c.here then return (.version major, c) else throw unscannable

/-- The handle and the tags of a tag directive. -/
def handleDirective (c : Cursor) : Except Failure (Directive × Cursor) := do
  let (handle, c) ← tagHandle (← c.skipWhile (· == ' '))
  if c.here != ' ' then throw unscannable
  let (tags, c) ← someTagText (← c.skipWhile (· == ' '))
  if isSpaceOrEnd c.here then return (.handle handle tags, c) else throw unscannable

/-- A directive; the cursor is at its percent sign. -/
def directiveAt (c : Cursor) : Except Failure (Token × Cursor) := do
  let c ← c.next
  let name := c.rest.takeWhile isNameChar
  let c ← c.advance name.length
  if name.isEmpty || !isSpaceOrEnd c.here then throw unscannable
  let (d, c) ←
    if name == "YAML".toList then versionDirective c
    else if name == "TAG".toList then handleDirective c
    else pure (.ignored, ← c.skipWhile (!isLineEnd ·))
  return (.directive d, ← passLineEnd c)

end Token

end TopicReader.Yaml
