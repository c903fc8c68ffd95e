import TopicReader.Number.Double
import TopicReader.Text.Utf8

/-!
# `Text.Feed` — the text of a file as it is read, piece by piece

Bytes are fetched in chunks and decoded at once, so bytes that spell no text are noticed when their chunk is
fetched, which may be long before the text in front of them is used up.

## Contents
- **Line breaks.** `plainBreaks`: one kind of line break.
- **State.** `Feed`: the bytes not fetched yet, what the last chunk left open, and the text that is ready.
- **Fetching.** `Feed.fetch`: one chunk, whose size follows the bytes a character took in the last one.
- **Reading.** `Feed.read` hands over a number of characters, and `Feed.pieces` reads until nothing is left.
-/

namespace TopicReader.Text

/-- Carriage returns, with or without a line feed, as line feeds. -/
def plainBreaks : List Char → List Char
  | [] => []
  | '\r' :: '\n' :: rest => '\n' :: plainBreaks rest
  | '\r' :: rest => '\n' :: plainBreaks rest
  | c :: rest => c :: plainBreaks rest

/-- A file that is being read. `held` says that the last chunk ended in a carriage return, whose line feed
    may be the first character of the next one. -/
structure Feed where
  bytes : List UInt8
  begun : Option Utf8.Begun
  held : Bool
  ready : List Char
  ratio : Double
deriving Repr

namespace Feed

/-- A file that nothing has been read of. -/
def ofBytes (bytes : List UInt8) : Feed :=
  { bytes := bytes, begun := none, held := false, ready := [], ratio := Double.zero false }

/-- The least number of bytes to fetch. -/
def leastChunk : Nat := 8192

/-- The number of bytes to fetch for a number of characters. -/
def chunkSize (ratio : Double) (want : Nat) : Nat :=
  let one := Double.ofInt 1
  let ratio := if ratio.lt one then one else ratio
  max leastChunk ((ratio.mul (Double.ofInt want)).toInt?.getD 0).toNat

/-- Fetch one chunk, and say whether it brought anything, bytes or text; nothing if its bytes spell no
    text. -/
def fetch (f : Feed) (want : Nat) : Option (Bool × Feed) :=
  let input := f.bytes.take (chunkSize f.ratio want)
  let last := input.isEmpty
  match Utf8.decodeOn f.begun input with
  | none => none
  | some (cs, begun) =>
    if last && begun.isSome then none
    else
      let cs := if f.held && (last || !cs.isEmpty) then '\r' :: cs else cs
      let held := !last && (cs.getLast? == some '\r' || (cs.isEmpty && f.held))
      let text := plainBreaks (if held then cs.dropLast else cs)
      some (!last || !text.isEmpty,
        { bytes := f.bytes.drop input.length
          begun := begun
          held := held
          ready := text
          ratio :=
            if text.isEmpty then Double.zero false else Double.ofQuotient input.length text.length })

/-- Hand over characters, fetching chunks while too few are ready. -/
def readMore : Nat → Nat → List Char → Feed → Option (List Char × Feed)
  | 0, _, got, f => some (got, f)
  | fuel + 1, want, got, f =>
    let part := f.ready.take want
    let left := want - part.length
    let f := { f with ready := f.ready.drop part.length }
    if left = 0 then some (got ++ part, f)
    else
      match f.fetch left with
      | none => none
      | some (false, f) => some (got ++ part, f)
      | some (true, f) => readMore fuel left (got ++ part) f

/-- Hand over a number of characters, fewer at the end of the file. -/
def read (f : Feed) (want : Nat) : Option (List Char × Feed) :=
  readMore (f.bytes.length + 2) want [] f

/-- Read piece after piece, with fuel for the number of pieces, and say whether all bytes spell text. -/
def piecesFrom (size : Nat) : Nat → Feed → List (List Char) × Bool
  | 0, _ => ([], true)
  | fuel + 1, f =>
    match f.read size with
    | none => ([], false)
    | some ([], _) => ([], true)
    | some (piece, f) =>
      let r := piecesFrom size fuel f
      (piece :: r.1, r.2)

/-- The pieces of a file up to the first that cannot be read, and whether that is its end. -/
def pieces (size : Nat) (bytes : List UInt8) : List (List Char) × Bool :=
  piecesFrom size (bytes.length + 1) (ofBytes bytes)

end Feed

end TopicReader.Text
