import TopicReader.Failure.Basic
import TopicReader.Text.Utf8
import TopicReader.Value.Text

/-!
# `Record` — what a stream delivers, and how a record is written

## Contents
- **Records.** `Record`: topic, partition, offset, key and payload.
- **Items.** `Item`: a record, the end of a partition, a failure, or anything else.
- **Layout.** `Layout.render`: the offset and the key, where they are asked for, then the payload and the
  delimiter.
-/

namespace TopicReader

/-- A record of a partition. -/
structure Record where
  topic : String
  partition : Int
  offset : Int
  key : Option (List UInt8)
  payload : Option (List UInt8)
deriving DecidableEq, Repr, Inhabited

/-- An item of the queue that all streams feed. -/
inductive Item where
  | record (r : Record)
  | ended (topic : String) (partition offset : Int)
  | failed (topic : String) (partition : Option Int) (failure : Failure)
  | alien (v : Value)
deriving Repr, Inhabited

/-! ## Layout -/

/-- How records are written. -/
structure Layout where
  delimiter : List UInt8
  keyDelimiter : Option (List UInt8)
  printOffset : Bool
  unbuffered : Bool
deriving DecidableEq, Repr, Inhabited

namespace Layout

/-- The delimiter where none is set. -/
def usualDelimiter : List UInt8 := [0x0a]

/-- The layout where nothing is set. -/
def usual : Layout := ⟨usualDelimiter, none, false, false⟩

/-- Some bytes, unless there are none. -/
def orUsual : List UInt8 → List UInt8
  | [] => usualDelimiter
  | bs => bs

/-- What stands after an offset: the key delimiter, or a line break where there is none. -/
def offsetMark (l : Layout) : List UInt8 := orUsual (l.keyDelimiter.getD [])

/-- The offset in front of a record, where it is asked for. -/
def offsetPart (l : Layout) (r : Record) : List UInt8 :=
  if l.printOffset then Text.Utf8.encode (intText r.offset) ++ l.offsetMark else []

/-- The key in front of a payload, where keys are asked for. -/
def keyPart (l : Layout) (r : Record) : List UInt8 :=
  match l.keyDelimiter with
  | some mark => r.key.getD [] ++ mark
  | none => []

/-- A record as it is written. -/
def render (l : Layout) (r : Record) : List UInt8 :=
  l.offsetPart r ++ l.keyPart r ++ r.payload.getD [] ++ l.delimiter

end Layout

end TopicReader
