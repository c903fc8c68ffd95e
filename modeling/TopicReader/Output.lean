import TopicReader.Record

/-!
# `Output` — where records are written to

## Contents
- **The sink.** `Sink`: what becomes of each write and of each flush, by their number.
- **The output.** `Output`: what was accepted so far, and how often the sink was used.
- **Writing.** `Output.format` writes one record in one piece, `Output.flush` empties the sink's buffer; what
  the system refuses, and a write that falls short, are problems with the output.

Offsets are the protocol's, of 64 bits, so that they can always be written out.
-/

namespace TopicReader

/-- What becomes of a write: all of it is accepted, with or without saying so; or a part of it; or none. -/
inductive Acceptance where
  | all
  | silent
  | part (count : Int)
  | refused (f : Failure)
deriving Repr, Inhabited

/-- What becomes of each write and of each flush, by their number from zero on. -/
structure Sink where
  accept : Nat → Acceptance
  flushing : Nat → Option Failure

/-- A sink that accepts everything. -/
def Sink.steady : Sink := ⟨fun _ => .all, fun _ => none⟩

/-- An output: what was accepted, the latest first, and the number of writes and of flushes. -/
structure Output where
  accepted : List (List UInt8)
  writes : Nat
  flushes : Nat
deriving DecidableEq, Repr, Inhabited

namespace Output

/-- Nothing is written yet. -/
def empty : Output := ⟨[], 0, 0⟩

/-- Everything that was accepted. -/
def bytes (o : Output) : List UInt8 := o.accepted.reverse.flatten

/-- Bytes up to a count; a negative count leaves bytes off at the end. -/
def upTo (count : Int) (bs : List UInt8) : List UInt8 :=
  if count < 0 then bs.take (bs.length - count.natAbs) else bs.take count.toNat

/-- Write bytes. The result is the number that the sink reports, if it reports one. -/
def write (o : Output) (sink : Sink) (bs : List UInt8) : Except Failure (Option Int) × Output :=
  let next := { o with writes := o.writes + 1 }
  match sink.accept o.writes with
  | .all => (.ok (some bs.length), { next with accepted := bs :: o.accepted })
  | .silent => (.ok none, { next with accepted := bs :: o.accepted })
  | .part count => (.ok (some count), { next with accepted := upTo count bs :: o.accepted })
  | .refused f => (.error f, next)

/-- A refused flush. -/
def flushFailure (f : Failure) : Failure := if f.isSystem then .caused .flush f else f

/-- Empty the sink's buffer. -/
def flush (o : Output) (sink : Sink) : Except Failure Unit × Output :=
  let next := { o with flushes := o.flushes + 1 }
  match sink.flushing o.flushes with
  | none => (.ok (), next)
  | some f => (.error (flushFailure f), next)

/-- A refused write. -/
def writeFailure (size : Nat) (r : Record) (f : Failure) : Failure :=
  if f.isSystem then .caused (.write size r.partition r.offset) f else f

/-- Is a reported number other than the size? -/
def fallsShort (size : Nat) : Option Int → Option Int
  | some n => if n = size then none else some n
  | none => none

/-- Write one record in one piece. -/
def format (o : Output) (sink : Sink) (l : Layout) (r : Record) : Except Failure (List UInt8) × Output :=
  let bs := l.render r
  match o.write sink bs with
  | (.error f, o) => (.error (writeFailure bs.length r f), o)
  | (.ok reported, o) =>
    match fallsShort bs.length reported with
    | some n => (.error (.classified (.shortWrite n bs.length r.partition r.offset)), o)
    | none =>
      if l.unbuffered then
        match o.flush sink with
        | (.ok (), o) => (.ok bs, o)
        | (.error f, o) => (.error f, o)
      else (.ok bs, o)

end Output

end TopicReader
