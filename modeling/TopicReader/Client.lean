import TopicReader.Journal.Basic
import TopicReader.Metadata.Basic
import TopicReader.Record

/-!
# `Client` — what a run needs from the cluster's client

## Contents
- **Calls.** `Call`: what a run asks of a client, as it is recorded, and `Call.words`.
- **Replies.** `Reply`: the result of a call, and the `Incident`s that happen beside it while it runs.
- **The client.** `Client`: one function a call, over a state of the client's own.
-/

namespace TopicReader

/-- What a run asks of a client. -/
inductive Call where
  | start
  | stop
  | fetch (topic : String) (seconds : Double)
  | openStream (topic : String) (partition : Int) (start : Offset)
  | closeStream (topic : String) (partition : Int)
  | poll
deriving DecidableEq, Repr, Inhabited

/-- What a call asks, word by word. -/
def Call.words : Call → List Value
  | .start => [.text "start"]
  | .stop => [.text "stop"]
  | .fetch topic seconds => [.text "fetch", .text topic, .float seconds]
  | .openStream topic partition o =>
    [.text "open", .text topic, .int partition, .text o.text]
  | .closeStream topic partition => [.text "close", .text topic, .int partition]
  | .poll => [.text "poll"]

/-- What happens beside a call while it runs: someone stops the run, or the client tells the log something. -/
inductive Incident where
  | stop (reason : String)
  | note (level : Level) (origin message : String) (fields : Fields)
deriving Repr, Inhabited

/-- What comes of a call. -/
structure Reply (α : Type) where
  incidents : List Incident
  result : Except Failure α

namespace Reply

/-- A result without incidents. -/
def of {α : Type} (r : Except Failure α) : Reply α := ⟨[], r⟩

end Reply

/-- A client with a state of its own. `poll` waits at most the given number of seconds. -/
structure Client (σ : Type) where
  start : σ → Reply Unit × σ
  stop : σ → Reply Unit × σ
  fetch : String → Double → σ → Reply TopicMetadata × σ
  openStream : String → Int → Offset → σ → Reply Unit × σ
  closeStream : String → Int → σ → Reply Unit × σ
  poll : Double → σ → Reply (List Item) × σ

end TopicReader
