import TopicReader.Limit
import TopicReader.Run.Basic

/-!
# `Run.Loop` — from the queue to the output

## Contents
- **One item.** `Run.dispatch`: a record is written and counted, an end of a partition is observed, a failure
  ends the run, and anything else has no place in the queue.
- **A batch.** `Run.dispatchAll`: items after the run has stopped are dropped.
- **The loop.** `Run.drain` polls until the run stops, for as many polls as there is fuel.
-/

namespace TopicReader.Run

variable {σ : Type}

/-- The origin of the log records. -/
def loopOrigin : String := "kfc.consumer.loop"

/-- The number of seconds that a poll waits at most. -/
def pollWait : Double := Double.ofQuotient 1 10

/-! ## One item -/

/-- Count a record; at the limit the run stops. -/
def count (limit : Limit) (run : Run σ) : Run σ :=
  let run := { run with received := run.received + 1 }
  match limit with
  | some n =>
    if n ≤ run.received then
      (run.note Level.debug loopOrigin "Message limit reached"
        [("messages_consumed", .int run.received), ("limit", .int n)]).halt "limit"
    else run
  | none => run

/-- Write a record and count it. -/
def takeRecord (sink : Sink) (l : Layout) (limit : Limit) (r : Record) (run : Run σ) :
    Except Failure Unit × Run σ :=
  match run.atPosition r.topic r.partition r.offset (format sink l r) with
  | (.ok (), run) => (.ok (), run.count limit)
  | (.error f, run) => (.error f, run)

/-- Observe the end of a partition. -/
def observe (topic : String) (partition offset : Int) (run : Run σ) : Unit × Run σ :=
  let (notice, tracker) := run.tracker.observe partition
  let run := { run with tracker := tracker, journal := notice.write run.journal topic partition offset }
  ((), if notice.isOver then run.halt "eof" else run)

/-- Something that has no place in the queue. -/
def unexpected (v : Value) : Failure :=
  .foreign (.plain "TypeError" ("Unexpected queue item: " ++ v.quoted))

/-- Deal with one item. -/
def dispatch (sink : Sink) (l : Layout) (limit : Limit) (item : Item) (run : Run σ) :
    Except Failure Unit × Run σ :=
  match item with
  | .record r => run.takeRecord sink l limit r
  | .ended topic partition offset =>
    (.ok (), (run.atPosition topic partition offset (observe topic partition offset)).2)
  | .failed topic partition f => (.error (f.ofStream topic partition []), run)
  | .alien v => (.error (unexpected v), run)

/-! ## Batches -/

/-- Deal with the items of a batch while the run goes on. -/
def dispatchAll (sink : Sink) (l : Layout) (limit : Limit) :
    List Item → Run σ → Except Failure Unit × Run σ
  | [], run => (.ok (), run)
  | item :: rest, run =>
    if run.standing.isRunning then
      match run.dispatch sink l limit item with
      | (.ok (), run) => dispatchAll sink l limit rest run
      | (.error f, run) => (.error f, run)
    else (.ok (), run)

/-- Poll once and deal with the batch. -/
def turn (c : Client σ) (sink : Sink) (l : Layout) (limit : Limit) (run : Run σ) :
    Except Failure Unit × Run σ :=
  match run.poll c pollWait with
  | (.ok items, run) => run.dispatchAll sink l limit items
  | (.error f, run) => (.error f, run)

/-- Poll until the run stops. There is no result if the fuel, one unit a poll, does not last that long. -/
def drain (c : Client σ) (sink : Sink) (l : Layout) (limit : Limit) (fuel : Nat) (run : Run σ) :
    Option (Except Failure Unit) × Run σ :=
  if run.standing.isRunning then
    match fuel with
    | 0 => (none, run)
    | fuel + 1 =>
      match run.turn c sink l limit with
      | (.ok (), run) => drain c sink l limit fuel run
      | (.error f, run) => (some (.error f), run)
  else (some (.ok ()), run)

/-- The limit as a field of a record. -/
def limitValue : Limit → Value
  | some n => .int n
  | none => .null

/-- The loop with its records at the start and at the end. -/
def loop (c : Client σ) (sink : Sink) (l : Layout) (limit : Limit) (fuel : Nat) (run : Run σ) :
    Option (Except Failure Unit) × Run σ :=
  let run := run.note Level.debug loopOrigin "Consume loop started"
    [("limit", limitValue limit), ("threshold", .int run.tracker.threshold)]
  match run.drain c sink l limit fuel with
  | (some (.ok ()), run) =>
    (some (.ok ()), run.note Level.debug loopOrigin "Consume loop finished"
      [("messages_consumed", .int run.received), ("reason", Problem.optText run.standing.reason?)])
  | (r, run) => (r, run)

end TopicReader.Run
