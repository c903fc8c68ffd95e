import TopicReader.ClientSettings
import TopicReader.Offset.Spec
import TopicReader.Run.Loop
import TopicReader.Run.Streams
import TopicReader.Startup
import TopicReader.Summary

/-!
# `Run.Consume` — a whole run

## Contents
- **Ending.** `Ending`: how a run ends, with its exit code; a failure may also leave it.
- **Before.** `starting`: what is checked before anything is asked of the client.
- **Stages.** `Run.resolve` finds the partitions, `Run.connect` opens their streams, `Run.transfer` drains the
  queue and empties the sink's buffer, `Run.finish` logs what went wrong and releases the client.
- **The run.** `Run.consume`, for as many polls as there is fuel.
-/

namespace TopicReader

/-- How a run ends: well, with an error that is told, or by a failure that leaves it. -/
inductive Ending where
  | fine
  | fatal
  | raised (f : Failure)
deriving Repr, Inhabited

instance (e : Ending) : Decidable (e = .fatal) :=
  match e with
  | .fine => .isFalse nofun
  | .fatal => .isTrue rfl
  | .raised _ => .isFalse nofun

/-- The exit code of an ending. A failure that leaves the program ends it with the code of an error. -/
def Ending.code : Ending → Nat
  | .fine => 0
  | .fatal => 1
  | .raised _ => 1

theorem Ending.eq_fine_of_code {e : Ending} (h : e.code = 0) : e = .fine := by
  cases e with
  | fine => rfl
  | fatal => cases h
  | raised f => cases h

/-- The two readings of the clock around a run, in seconds. -/
structure Clock where
  started : Double
  ended : Double
deriving DecidableEq, Repr, Inhabited

/-- The time between the readings. -/
def Clock.elapsed (k : Clock) : Double := k.ended.sub k.started

/-- Where to start, if the settings can be used at all. -/
def starting (s : Settings) : Except Failure Offset := do
  s.validate
  Offset.resolve s.offset

/-- The layout that the settings ask for. -/
def Settings.layout (s : Settings) : Layout :=
  ⟨s.delimiter, s.keyDelimiter, s.printOffset, s.unbuffered⟩

namespace Run

variable {σ : Type}

/-- The origin of the records about the run as a whole. -/
def runOrigin : String := "kfc.consumer.runner"

/-- The origin of the record about the topic. -/
def topicOrigin : String := "kfc.consumer.metadata"

/-! ## Before -/

/-- The settings cannot be used. A failure that is no known problem leaves the run as it is. -/
def reject (f : Failure) (run : Run σ) : Ending × Run σ :=
  if f.isClassified then (.fatal, run.noteFailure Level.error runOrigin f.text [] false f)
  else (.raised f, run)

/-- Put the client's name into the context of the log. -/
def introduce (s : Settings) (run : Run σ) : Run σ :=
  let name := (s.properties.get? "client_id").getD (.text Connection.usualClientId)
  let given := if name.isNull then none else some name
  { run with journal := { run.journal with run := run.journal.run.update none none given } }

/-- Log what the run starts with. -/
def announce (s : Settings) (start : Offset) (run : Run σ) : Run σ :=
  (Startup.ofSettings s start).foldl (fun run line => run.note Level.debug runOrigin line []) run

/-! ## Stages -/

/-- The partitions of a topic, in ascending order. -/
def resolve (c : Client σ) (topic : String) (seconds : Double) (partition : Option Int)
    (run : Run σ) : Except Failure (List Int) × Run σ :=
  match run.fetch c topic seconds with
  | (.error f, run) => (.error f, run)
  | (.ok m, run) =>
    match m.partitionsFor topic partition with
    | .error f => (.error f, run)
    | .ok ps =>
      (.ok ps, run.note Level.info topicOrigin
        ("Resolved topic " ++ topic ++ " with " ++ ps.length.repr ++ " partitions")
        [("topic", .text topic), ("partition_count", .int ps.length)])

/-- Start the client and open the streams. -/
def connect (c : Client σ) (s : Settings) (start : Offset) (run : Run σ) :
    Except Failure (List Int) × Run σ :=
  match run.start c with
  | (.error f, run) => (.error f, run)
  | (.ok (), run) =>
    match Value.quotient s.connection.metadataTimeout 1000 with
    | .error f => (.error f, run)
    | .ok seconds =>
      match run.resolve c s.topic seconds s.partition with
      | (.error f, run) => (.error f, run)
      | (.ok ps, run) => run.openStreams c s.topic ps start s.partition

/-- Drain the queue and empty the sink's buffer. -/
def transfer (c : Client σ) (sink : Sink) (s : Settings) (fuel : Nat) (opened : List Int)
    (run : Run σ) : Option (Except Failure Unit) × Run σ :=
  let tracker := EndTracker.ofPartitions opened s.partition.isSome s.exitOnEnd
  match { run with tracker := tracker }.loop c sink s.layout s.limit fuel with
  | (some (.ok ()), run) =>
    let (result, run) := run.flush sink
    (some result, run)
  | (r, run) => (r, run)

/-- Everything between the first call and the release. -/
def body (c : Client σ) (sink : Sink) (s : Settings) (start : Offset) (fuel : Nat) (run : Run σ) :
    Option (Except Failure Unit) × Run σ :=
  match run.connect c s start with
  | (.error f, run) => (some (.error f), run)
  | (.ok opened, run) => run.transfer c sink s fuel opened

/-- What the log says of a failure that ends the run. -/
def fatalMessage (topic : String) (f : Failure) : String :=
  if f.isClassified then f.text else "Unexpected error consuming " ++ topic

/-- A failure ends the run. -/
def fail (topic : String) (f : Failure) (run : Run σ) : Run σ :=
  (run.halt "error").noteFailure Level.error runOrigin (fatalMessage topic f) [("topic", .text topic)]
    true f

/-- Release the client; a failure is logged and no more. -/
def settle (c : Client σ) (topic : String) (run : Run σ) : Run σ :=
  match run.release c topic with
  | (.ok (), run) => run
  | (.error f, run) =>
    run.noteFailure Level.warning runOrigin "Error closing consumer" [] true f

/-- Log the end of the run. -/
def summarize (k : Clock) (run : Run σ) : Run σ :=
  run.note Level.info runOrigin (Summary.ofRun run.received k.elapsed run.standing.reason?)
    [("messages_consumed", .int run.received), ("reason", Problem.optText run.standing.reason?)]

/-- What follows the body of a run, whatever came of it. -/
def finish (c : Client σ) (topic : String) (k : Clock) (result : Except Failure Unit) (run : Run σ) :
    Ending × Run σ :=
  match result with
  | .ok () => (.fine, (run.settle c topic).summarize k)
  | .error f => (.fatal, ((run.fail topic f).settle c topic).summarize k)

/-- A run with usable settings. -/
def consumeFrom (c : Client σ) (sink : Sink) (s : Settings) (k : Clock) (start : Offset) (fuel : Nat)
    (run : Run σ) : Option Ending × Run σ :=
  match ((run.introduce s).announce s start).body c sink s start fuel with
  | (none, run) => (none, run)
  | (some result, run) =>
    let (ending, run) := run.finish c s.topic k result
    (some ending, run)

/-- A whole run: from the topic's streams to the sink, until the run stops or something fails. There is no
    ending if the fuel, one unit a poll, does not last that long. -/
def consume (c : Client σ) (sink : Sink) (s : Settings) (k : Clock) (fuel : Nat) (run : Run σ) :
    Option Ending × Run σ :=
  match starting s with
  | .error f =>
    let (ending, run) := run.reject f
    (some ending, run)
  | .ok start => run.consumeFrom c sink s k start fuel

end Run

end TopicReader
