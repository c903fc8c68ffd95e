import TopicReader.Client
import TopicReader.EndTracker
import TopicReader.Journal.Report
import TopicReader.Output
import TopicReader.Standing

/-!
# `Run` — the state of a run

## Contents
- **Events.** `Event`: the calls of the client and the uses of the sink, in one order.
- **The state.** `Run`: the client, the output, what happened so far, and the log.
- **Steps.** `Run.note` and `Run.noteFailure` write to the log, `Run.halt` stops the run, and one function a
  call asks the client.
-/

namespace TopicReader

/-- What happens in a run: a call of the client, or a use of the sink. -/
inductive Event where
  | call (c : Call)
  | write (bytes : List UInt8)
  | flush
deriving DecidableEq, Repr, Inhabited

/-- The state of a run. `streams` and `events` hold the latest first. -/
structure Run (σ : Type) where
  client : σ
  output : Output
  events : List Event
  standing : Standing
  received : Nat
  tracker : EndTracker
  streams : List Int
  closed : Bool
  journal : Journal

namespace Run

variable {σ : Type}

/-- A run before anything happens. -/
def fresh (client : σ) (journal : Journal) : Run σ :=
  ⟨client, .empty, [], .running, 0, .ofPartitions [] false false, [], false, journal⟩

/-- The partitions with an open stream, in the order of opening. -/
def opened (run : Run σ) : List Int := run.streams.reverse

/-! ## The log -/

/-- Write to the log. -/
def note (level : Level) (origin message : String) (fields : Fields) (run : Run σ) : Run σ :=
  { run with journal := run.journal.write level origin message fields .absent }

/-- Write a failure to the log, with or without the failure itself. -/
def noteFailure (level : Level) (origin message : String) (given : Fields) (detailed : Bool)
    (f : Failure) (run : Run σ) : Run σ :=
  { run with journal := run.journal.writeFailure level origin message given detailed f }

/-- The origin of the record of a stop. -/
def stopOrigin : String := "kfc.consumer.types"

/-- Stop the run; only the first stop counts and is logged. -/
def halt (reason : String) (run : Run σ) : Run σ :=
  match run.standing with
  | .running =>
    note Level.debug stopOrigin "Run stopping" [("reason", .text reason)]
      { run with standing := .stopped reason }
  | .stopped _ => run

/-- Go to a position for the log, do something, and come back to where it was. -/
def atPosition {α : Type} (topic : String) (partition offset : Int) (body : Run σ → α × Run σ)
    (run : Run σ) : α × Run σ :=
  let before := run.journal.position
  let inside := before.enter (some topic) (some partition) (some offset)
  let (a, run) := body { run with journal := { run.journal with position := inside } }
  (a, { run with journal := { run.journal with position := run.journal.position.leave before } })

/-! ## Calls -/

/-- One thing that happens beside a call. -/
def absorb (run : Run σ) : Incident → Run σ
  | .stop reason => run.halt reason
  | .note level origin message fields => run.note level origin message fields

/-- Ask the client: the call is recorded first, and what happens beside it comes before its result counts. -/
def ask {α : Type} (c : Call) (f : σ → Reply α × σ) (run : Run σ) : Except Failure α × Run σ :=
  let (reply, client) := f run.client
  let run := { run with client := client, events := .call c :: run.events }
  (reply.result, reply.incidents.foldl absorb run)

/-- Start the client. -/
def start (c : Client σ) (run : Run σ) : Except Failure Unit × Run σ := run.ask .start c.start

/-- Stop the client. -/
def stop (c : Client σ) (run : Run σ) : Except Failure Unit × Run σ := run.ask .stop c.stop

/-- Ask for the metadata of a topic. -/
def fetch (c : Client σ) (topic : String) (seconds : Double) (run : Run σ) :
    Except Failure TopicMetadata × Run σ :=
  run.ask (.fetch topic seconds) (c.fetch topic seconds)

/-- Open the stream of a partition. -/
def openStream (c : Client σ) (topic : String) (partition : Int) (start : Offset) (run : Run σ) :
    Except Failure Unit × Run σ :=
  run.ask (.openStream topic partition start) (c.openStream topic partition start)

/-- Close the stream of a partition. -/
def closeStream (c : Client σ) (topic : String) (partition : Int) (run : Run σ) :
    Except Failure Unit × Run σ :=
  run.ask (.closeStream topic partition) (c.closeStream topic partition)

/-- Take what the queue holds. -/
def poll (c : Client σ) (seconds : Double) (run : Run σ) : Except Failure (List Item) × Run σ :=
  run.ask .poll (c.poll seconds)

/-! ## The sink -/

/-- Write one record. The write is recorded, and a flush after it where one takes place. -/
def format (sink : Sink) (l : Layout) (r : Record) (run : Run σ) : Except Failure Unit × Run σ :=
  let (result, output) := run.output.format sink l r
  let written := Event.write (l.render r) :: run.events
  let events := if output.flushes = run.output.flushes then written else Event.flush :: written
  (result.map fun _ => (), { run with output := output, events := events })

/-- Empty the sink's buffer. -/
def flush (sink : Sink) (run : Run σ) : Except Failure Unit × Run σ :=
  let (result, output) := run.output.flush sink
  (result, { run with output := output, events := .flush :: run.events })

end Run

end TopicReader
