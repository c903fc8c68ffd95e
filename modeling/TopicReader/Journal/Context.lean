import TopicReader.Value.Basic

/-!
# `Journal.Context` — what every log record says about the run and the record at hand

## Contents
- **The run.** `RunContext`: the run, the stage and the client, set field by field.
- **The record at hand.** `Position`: topic, partition and offset; `Position.enter` sets what is given, and
  `Position.leave` brings back what was before.
- **Fields.** `Position.fields`: what is known of the position.
-/

namespace TopicReader

/-- What log records say about the run. -/
structure RunContext where
  runId : String
  stage : String
  clientId : Value
deriving Repr, Inhabited

namespace RunContext

/-- Nothing is known. -/
def empty : RunContext := ⟨"", "", .text ""⟩

/-- Set what is given. -/
def update (c : RunContext) (runId stage : Option String) (clientId : Option Value) : RunContext :=
  ⟨runId.getD c.runId, stage.getD c.stage, clientId.getD c.clientId⟩

/-- What is known of the run. -/
def fields (c : RunContext) : Fields :=
  [("run_id", .text c.runId), ("stage", .text c.stage), ("client_id", c.clientId)]

end RunContext

/-- The record at hand. An empty topic and negative numbers mean that nothing is known. -/
structure Position where
  topic : String
  partition : Int
  offset : Int
deriving DecidableEq, Repr, Inhabited

namespace Position

/-- Nothing is known. -/
def empty : Position := ⟨"", -1, -1⟩

/-- Set what is given. -/
def enter (p : Position) (topic : Option String) (partition offset : Option Int) : Position :=
  ⟨topic.getD p.topic, partition.getD p.partition, offset.getD p.offset⟩

/-- Bring back what was before: all three are given then. -/
def leave (p before : Position) : Position :=
  p.enter (some before.topic) (some before.partition) (some before.offset)

/-- What is known of the position. -/
def fields (p : Position) : Fields :=
  (if p.topic = "" then [] else [("kafka_topic", .text p.topic)]) ++
    (if p.partition < 0 then [] else [("kafka_partition", .int p.partition)]) ++
    (if p.offset < 0 then [] else [("kafka_offset", .int p.offset)])

end Position

end TopicReader
