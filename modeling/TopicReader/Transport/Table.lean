import TopicReader.Transport.Request

/-!
# `Transport.Table` — a network that answers from tables

## Contents
- **The tables.** `NetworkTable`: the answer to each kind of request, records that are handed out once, and
  failures that occur once.
- **The network.** `NetworkTable.network`.
-/

namespace TopicReader

/-- Tables of answers. An offset that is in no table is zero, and an end that is in none is not known. -/
structure NetworkTable where
  failures : List (String × Failure)
  topics : List DescribedTopic
  silent : Bool
  beginnings : List (TopicPartition × Int)
  ends : List (TopicPartition × Int)
  positions : List (TopicPartition × Int)
  highWaters : List (TopicPartition × Int)
  lastStables : List (TopicPartition × Int)
  records : List (TopicPartition × List Record)

namespace NetworkTable

/-- Empty tables. -/
def empty : NetworkTable := ⟨[], [], false, [], [], [], [], [], []⟩

/-- The entry of a partition. -/
def offsetIn? (table : List (TopicPartition × Int)) (tp : TopicPartition) : Option Int :=
  (table.find? fun e => e.1 = tp).map (·.2)

/-- The answer to a request that does not fail. -/
def answer (t : NetworkTable) : (r : Request) → r.Answer × NetworkTable
  | .describe _ => (if t.silent then none else some t.topics, t)
  | .beginningOffset tp => ((offsetIn? t.beginnings tp).getD 0, t)
  | .endOffset tp => ((offsetIn? t.ends tp).getD 0, t)
  | .position tp => ((offsetIn? t.positions tp).getD 0, t)
  | .highWater tp => (offsetIn? t.highWaters tp, t)
  | .lastStable tp => (offsetIn? t.lastStables tp, t)
  | .getMany _ _ => (t.records, { t with records := [] })
  | .makeConsumer _ | .makeAdmin _ | .startConsumer | .startAdmin | .stopConsumer | .closeAdmin
  | .assign _ | .seekToBeginning _ | .seekToEnd _ | .seekToCommitted _ | .seek _ _ | .pause _ => ((), t)

/-- The network that answers from tables. -/
def network : Network NetworkTable where
  answer r t :=
    match t.failures.find? fun f => f.1 == r.name with
    | some f => (.error f.2, { t with failures := t.failures.filter fun g => g.1 != r.name })
    | none =>
      let (a, t) := t.answer r
      (.ok a, t)

end NetworkTable

end TopicReader
