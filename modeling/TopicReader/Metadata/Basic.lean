import TopicReader.Failure.Basic
import TopicReader.Metadata.ErrorCode

/-!
# `Metadata` — what the cluster says about a topic

## Contents
- **Topics and partitions.** `TopicMetadata` and `PartitionMetadata`, each with an optional error.
- **Answers.** `DescribedTopic` and `DescribedPartition`: the entries of an answer, where a name may stand in
  either of two members; `TopicMetadata.ofAnswer` picks the first entry for a topic, and takes the names of
  errors from a table.
- **Checking.** `TopicMetadata.partitionsFor`: the partitions of a healthy topic in ascending order.
-/

namespace TopicReader

/-- A partition as the cluster reports it. -/
structure PartitionMetadata where
  id : Int
  error : Option String
deriving DecidableEq, Repr, Inhabited

/-- A topic as the cluster reports it. -/
structure TopicMetadata where
  topic : String
  present : Bool
  error : Option String
  partitions : List PartitionMetadata
deriving DecidableEq, Repr, Inhabited

/-! ## Answers -/

/-- A partition in an answer, named by either of two members. -/
structure DescribedPartition where
  partition : Option Int
  partitionIndex : Option Int
  errorCode : Option Int
deriving DecidableEq, Repr, Inhabited

/-- A topic in an answer, named by either of two members. -/
structure DescribedTopic where
  topic : Option String
  name : Option String
  errorCode : Option Int
  partitions : List DescribedPartition
deriving DecidableEq, Repr, Inhabited

namespace DescribedPartition

/-- The number of a partition. -/
def id (p : DescribedPartition) : Int := (p.partition.orElse fun _ => p.partitionIndex).getD (-1)

/-- A partition as it is reported. -/
def metadata (table : Metadata.ErrorTable) (p : DescribedPartition) : PartitionMetadata :=
  ⟨p.id, Metadata.errorName? table (p.errorCode.getD 0)⟩

end DescribedPartition

namespace DescribedTopic

/-- The name of a topic. -/
def title? (t : DescribedTopic) : Option String := t.topic.orElse fun _ => t.name

end DescribedTopic

namespace TopicMetadata

/-- A topic that the cluster does not have. -/
def absent (topic : String) : TopicMetadata := ⟨topic, false, none, []⟩

/-- What an entry says of a topic. -/
def ofEntry (table : Metadata.ErrorTable) (topic : String) (t : DescribedTopic) : TopicMetadata :=
  if t.errorCode = some Metadata.unknownTopicCode then absent topic
  else
    ⟨topic, true, Metadata.errorName? table (t.errorCode.getD 0), t.partitions.map (·.metadata table)⟩

/-- What an answer says of a topic: its first entry counts. -/
def ofAnswer (table : Metadata.ErrorTable) (topic : String) (answer : List DescribedTopic) :
    TopicMetadata :=
  match answer.find? fun t => t.title? == some topic with
  | some t => ofEntry table topic t
  | none => absent topic

/-! ## Checking -/

/-- An error that says something. -/
def namedError? (error : Option String) : Option String := error.filter (· != "")

/-- The first partition in scope that has an error: the one asked for, or any. -/
def failing? (partition : Option Int) (ps : List PartitionMetadata) : Option (Int × String) :=
  ps.findSome? fun p =>
    match namedError? p.error with
    | some e => if partition = none ∨ partition = some p.id then some (p.id, e) else none
    | none => none

/-- Integers in ascending order. -/
def ascending (ids : List Int) : List Int := ids.mergeSort fun a b => a ≤ b

/-- Refuse a partition that is asked for and not there. -/
def refuseAbsent (topic : String) (partition : Option Int) (ids : List Int) : Except Failure Unit :=
  match partition with
  | some p =>
    if ids.contains p then .ok ()
    else .error (.classified (.partitionNotFound topic p ids.length))
  | none => .ok ()

/-- The partitions of a topic in ascending order, if the topic and the partitions in scope are healthy. -/
def partitionsFor (m : TopicMetadata) (topic : String) (partition : Option Int) :
    Except Failure (List Int) :=
  if !m.present then .error (.classified (.topicNotFound topic []))
  else
    match namedError? m.error with
    | some e => .error (.classified (.topicError topic e))
    | none =>
      if m.partitions.isEmpty then .error (.classified (.noPartitions topic))
      else do
        let ids := ascending (m.partitions.map (·.id))
        refuseAbsent topic partition ids
        match failing? partition m.partitions with
        | some (p, e) => .error (.classified (.partitionError topic p e))
        | none => return ids

end TopicMetadata

end TopicReader
