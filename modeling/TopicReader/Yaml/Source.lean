import TopicReader.Failure.Basic
import TopicReader.Text.Feed

/-!
# `Yaml.Source` — the text of a document, as far as it can be read

A file is read a stretch at a time, and a stretch only when it is needed; a fault in a later stretch is met
only if what stands in front of it is not refused before.

## Contents
- **Refusal.** `Yaml.malformed`: a document breaks the rules of the format.
- **The type.** `Source`: the text in front of the first fault, and that fault.
- **From a file.** `Source.ofBytes`.
-/

namespace TopicReader.Yaml

open TopicReader.Text

/-- The failure of a document that breaks the rules of the format. -/
def malformed (stage : MarkupStage) : Failure := .mishap (.malformedMarkup stage) "<yaml error>"

/-- The characters that a document may hold. -/
def isAllowed (c : Char) : Bool :=
  c == '\t' || c == '\n' || c == '\r' || (0x20 ≤ c.toNat && c.toNat ≤ 0x7e) || c.toNat == 0x85 ||
    (0xa0 ≤ c.toNat && c.toNat ≤ 0xfffd) || 0x10000 ≤ c.toNat

/-- The text of a document up to the first stretch that cannot be read, and what is wrong with that. -/
structure Source where
  text : List Char
  fault : Option Failure
deriving Repr

namespace Source

/-- A text in stretches, and a fault after them. A stretch that holds a character that documents may not
    hold is a fault itself. -/
def ofStretches (fault : Option Failure) : List (List Char) → Source
  | [] => ⟨[], fault⟩
  | s :: rest =>
    if s.all isAllowed then
      let more := ofStretches fault rest
      ⟨s ++ more.text, more.fault⟩
    else ⟨[], some (malformed .reading)⟩

/-- The number of characters that are asked for at a time. -/
def pieceSize : Nat := 4096

/-- The text of a file. Its first two pieces are read before anything else is done. -/
def ofBytes (bytes : List UInt8) : Source :=
  let (pieces, whole) := Feed.pieces pieceSize bytes
  let fault := if whole then none else some (.mishap .undecodable "invalid bytes in a text")
  match pieces, fault with
  | first :: second :: rest, fault => ofStretches fault ((first ++ second) :: rest)
  | [_], some f => ⟨[], some f⟩
  | pieces, fault => ofStretches fault pieces

end Source

end TopicReader.Yaml
