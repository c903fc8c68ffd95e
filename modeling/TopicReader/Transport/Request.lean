import TopicReader.Metadata.Basic
import TopicReader.Record

/-!
# `Transport.Request` — what is asked of the cluster

## Contents
- **Partitions.** `TopicPartition`: a partition of a topic.
- **Requests.** `Request`, the type of the answer to each (`Request.Answer`), `Request.name`, and
  `Request.arguments`.
- **The network.** `Network`: answers requests over a state of its own.
-/

namespace TopicReader

open TopicReader.Text

/-- A partition of a topic. -/
structure TopicPartition where
  topic : String
  partition : Int
deriving DecidableEq, Repr, Inhabited

/-- The form of a partition inside a quoted value. -/
def TopicPartition.quoted (tp : TopicPartition) : String :=
  "TopicPartition(topic=" ++ quoteText tp.topic ++ ", partition=" ++ intText tp.partition ++ ")"

/-- What is asked of the cluster: of a consumer, which reads, and of an admin client, which describes. -/
inductive Request where
  | makeConsumer (settings : Fields)
  | makeAdmin (settings : Fields)
  | startConsumer
  | startAdmin
  | stopConsumer
  | closeAdmin
  | describe (topic : String)
  | assign (tps : List TopicPartition)
  | seekToBeginning (tp : TopicPartition)
  | seekToEnd (tp : TopicPartition)
  | seekToCommitted (tp : TopicPartition)
  | seek (tp : TopicPartition) (offset : Int)
  | pause (tp : TopicPartition)
  | beginningOffset (tp : TopicPartition)
  | endOffset (tp : TopicPartition)
  | position (tp : TopicPartition)
  | highWater (tp : TopicPartition)
  | lastStable (tp : TopicPartition)
  | getMany (tps : List TopicPartition) (milliseconds : Int)
deriving Repr, Inhabited

namespace Request

/-- What a request is answered with. A description may not come at all; the end of a partition may not be
    known. -/
abbrev Answer : Request → Type
  | describe _ => Option (List DescribedTopic)
  | beginningOffset _ => Int
  | endOffset _ => Int
  | position _ => Int
  | highWater _ => Option Int
  | lastStable _ => Option Int
  | getMany _ _ => List (TopicPartition × List Record)
  | _ => Unit

/-- The name of a request; what makes a part of the client has the name of that part. -/
def name : Request → String
  | makeConsumer _ => "consumer"
  | makeAdmin _ => "admin"
  | startConsumer => "consumer.start"
  | startAdmin => "admin.start"
  | stopConsumer => "consumer.stop"
  | closeAdmin => "admin.close"
  | describe _ => "admin.describe_topics"
  | assign _ => "consumer.assign"
  | seekToBeginning _ => "consumer.seek_to_beginning"
  | seekToEnd _ => "consumer.seek_to_end"
  | seekToCommitted _ => "consumer.seek_to_committed"
  | seek _ _ => "consumer.seek"
  | pause _ => "consumer.pause"
  | beginningOffset _ => "consumer.beginning_offsets"
  | endOffset _ => "consumer.end_offsets"
  | position _ => "consumer.position"
  | highWater _ => "consumer.highwater"
  | lastStable _ => "consumer.last_stable_offset"
  | getMany _ _ => "consumer.getmany"

/-- A partition as a value. -/
def place (tp : TopicPartition) : Value := .list [.text tp.topic, .int tp.partition]

/-- What a request is about. -/
def arguments : Request → List Value
  | makeConsumer settings | makeAdmin settings => [.map settings.toMapping]
  | startConsumer | startAdmin | stopConsumer | closeAdmin => []
  | describe topic => [.list [.text topic]]
  | assign tps => [.list (tps.map place)]
  | seek tp offset => [place tp, .int offset]
  | beginningOffset tp | endOffset tp => [.list [place tp]]
  | getMany tps milliseconds => [.list (tps.map place), .int milliseconds]
  | seekToBeginning tp | seekToEnd tp | seekToCommitted tp | pause tp | position tp | highWater tp
  | lastStable tp => [place tp]

end Request

/-- Answers requests, over a state of its own, and names the errors in its answers. -/
structure Network (ν : Type) where
  answer : (r : Request) → ν → Except Failure r.Answer × ν
  errors : Metadata.ErrorTable := .usual

end TopicReader
