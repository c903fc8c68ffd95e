import TopicReader.Run.Basic

/-!
# `Run.Streams` — opening and closing the streams of a topic

## Contents
- **Selection.** `selected`: one partition, or all of them.
- **Opening.** `Run.openStreams`: all streams or none; when one cannot be opened, the others are closed.
- **Closing.** `Run.closeStreams` closes the latest first and goes on past failures; `Run.release` also stops
  the client, once.
-/

namespace TopicReader

/-- The partitions to open: the one asked for, or all of them. -/
def selected (topic : String) (partitions : List Int) (target : Option Int) : Except Failure (List Int) :=
  match target with
  | none => .ok partitions
  | some p =>
    if partitions.contains p then .ok [p]
    else .error (.classified (.partitionSelection topic p partitions.length))

namespace Run

variable {σ : Type}

/-- The origin of the log records. -/
def streamsOrigin : String := "kfc.consumer.orchestrator"

/-! ## Closing -/

/-- What the log says when a stream cannot be closed. -/
def closeMessage (topic : String) (p : Int) : String :=
  "Failed to stop consuming " ++ Problem.place topic (some p)

/-- Close one stream; a failure is logged and no more. -/
def closeOne (c : Client σ) (topic : String) (p : Int) (run : Run σ) : Run σ :=
  match run.closeStream c topic p with
  | (.ok (), run) => run
  | (.error f, run) =>
    run.noteFailure Level.warning streamsOrigin (closeMessage topic p)
      [("topic", .text topic), ("partition", .int p)] false f

/-- Close the streams of some partitions, one after the other. -/
def closeEach (c : Client σ) (topic : String) : List Int → Run σ → Run σ
  | [], run => run
  | p :: rest, run => closeEach c topic rest (run.closeOne c topic p)

/-- Close every open stream, the latest first. -/
def closeStreams (c : Client σ) (topic : String) (run : Run σ) : Run σ :=
  closeEach c topic run.streams { run with streams := [] }

/-- Close every open stream and stop the client, unless that was done before. -/
def release (c : Client σ) (topic : String) (run : Run σ) : Except Failure Unit × Run σ :=
  if run.closed then (.ok (), run)
  else
    match ({ run with closed := true }.closeStreams c topic).stop c with
    | (.ok (), run) =>
      (.ok (), run.note Level.debug streamsOrigin "Consumer closed" [("topic", .text topic)])
    | (.error f, run) => (.error f, run)

/-! ## Opening -/

/-- A stream that cannot be opened is a problem of its partition. -/
def openFailure (topic : String) (p : Int) (start : Offset) (f : Failure) : Failure :=
  if f.isClassified then f else .caused (.openStream topic p start) f

/-- A stream was opened. -/
def noteOpened (topic : String) (p : Int) (start : Offset) (run : Run σ) : Run σ :=
  note Level.debug streamsOrigin
    ("Opened stream for " ++ Problem.place topic (some p) ++ " at " ++ start.text)
    [("topic", .text topic), ("partition", .int p), ("offset_directive", .offset start)]
    { run with streams := p :: run.streams }

/-- Open the streams of some partitions, one after the other; if one fails, all open ones are closed. -/
def openEach (c : Client σ) (topic : String) (start : Offset) :
    List Int → Run σ → Except Failure Unit × Run σ
  | [], run => (.ok (), run)
  | p :: rest, run =>
    match run.openStream c topic p start with
    | (.ok (), run) => openEach c topic start rest (run.noteOpened topic p start)
    | (.error f, run) => (.error (openFailure topic p start f), run.closeStreams c topic)

/-- All streams are open. -/
def noteConsuming (topic : String) (run : Run σ) : Run σ :=
  run.note Level.info streamsOrigin
    ("Consuming " ++ run.streams.length.repr ++ " partition(s) of " ++ topic)
    [("topic", .text topic), ("partitions", .list (run.opened.map .int))]

/-- Open the streams of the selected partitions. The result is every partition with an open stream. -/
def openStreams (c : Client σ) (topic : String) (partitions : List Int) (start : Offset)
    (target : Option Int) (run : Run σ) : Except Failure (List Int) × Run σ :=
  match selected topic partitions target with
  | .error f => (.error f, run)
  | .ok ps =>
    match openEach c topic start ps run with
    | (.error f, run) => (.error f, run)
    | (.ok (), run) => (.ok run.opened, run.noteConsuming topic)

end Run

end TopicReader
