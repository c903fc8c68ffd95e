import TopicReader.Failure.Misconfiguration

/-!
# `Failure.Problem` — the problems that end a run

## Contents
- **The causes.** `Problem`, one constructor a cause; `Problem.Kind` names the classes they fall into.
- **Kinds.** `Problem.kind`, `Kind.name`, `Kind.category`.
- **Wording.** `Problem.message`. Some messages describe the failure that gave rise to the problem; that
  description is a parameter here.
- **Context.** `Problem.context` for the log, `Problem.subject` for what the problem is about.

Partitions are the protocol's, of 32 bits, so that they can always be written out. Only a partition that is asked for
may be longer; no cluster has it, and a run fails with that alike, whatever the text.
-/

namespace TopicReader

/-- A classified cause for ending a run. -/
inductive Problem where
  | misconfigured (cause : Misconfiguration)
  | offsetSpec (spec : String)
  | partitionSelection (topic : String) (partition count : Int)
  | topicNotFound (topic : String) (more : Fields)
  | topicError (topic error : String)
  | noPartitions (topic : String)
  | partitionNotFound (topic : String) (partition count : Int)
  | partitionError (topic : String) (partition : Int) (error : String)
  | metadataQuery (topic : String) (context : Fields)
  | metadataTimeout (topic : String) (seconds : Double)
  | connect (servers : Value)
  | openStream (topic : String) (partition : Int) (start : Offset)
  | stream (topic : String) (partition : Option Int) (context : Fields)
  | write (size : Nat) (partition offset : Int)
  | shortWrite (written : Int) (size : Nat) (partition offset : Int)
  | flush
  | reported (category : Category) (message : String) (context : Fields)
  | reportedStream (message : String) (topic : Option String) (partition : Option Int)
      (context : Fields)
deriving Repr, Inhabited

namespace Problem

/-- The classes of problem that answers and logs tell apart. -/
inductive Kind where
  | general
  | config
  | offsetSpec
  | partitionSelection
  | metadata
  | topicNotFound
  | topicError
  | noPartitions
  | partitionNotFound
  | partitionError
  | stream
  | output
deriving DecidableEq, Repr, Inhabited

/-- The classes, in order. -/
def Kind.all : List Kind :=
  [.general, .config, .offsetSpec, .partitionSelection, .metadata, .topicNotFound, .topicError,
   .noPartitions, .partitionNotFound, .partitionError, .stream, .output]

/-- The name of a class. -/
def Kind.name : Kind → String
  | .general => "KfcError"
  | .config => "ConfigError"
  | .offsetSpec => "InvalidOffsetSpec"
  | .partitionSelection => "PartitionSelectionError"
  | .metadata => "MetadataError"
  | .topicNotFound => "TopicNotFound"
  | .topicError => "TopicError"
  | .noPartitions => "NoPartitions"
  | .partitionNotFound => "PartitionNotFound"
  | .partitionError => "PartitionError"
  | .stream => "StreamError"
  | .output => "OutputError"

/-- The category of a class. -/
def Kind.category : Kind → Category
  | .general => .unknown
  | .config | .offsetSpec | .partitionSelection => .config
  | .metadata | .topicNotFound | .topicError | .noPartitions | .partitionNotFound
  | .partitionError => .metadata
  | .stream => .stream
  | .output => .output

/-- The plain class of a category. -/
def Kind.ofCategory : Category → Kind
  | .config => .config
  | .metadata => .metadata
  | .stream => .stream
  | .output => .output
  | .unknown => .general

/-- The class of a problem. -/
def kind : Problem → Kind
  | .misconfigured _ => .config
  | .offsetSpec _ => .offsetSpec
  | .partitionSelection .. => .partitionSelection
  | .topicNotFound .. => .topicNotFound
  | .topicError .. => .topicError
  | .noPartitions _ => .noPartitions
  | .partitionNotFound .. => .partitionNotFound
  | .partitionError .. => .partitionError
  | .metadataQuery .. => .metadata
  | .metadataTimeout .. => .metadata
  | .connect _ => .stream
  | .openStream .. => .stream
  | .stream .. => .stream
  | .write .. => .output
  | .shortWrite .. => .output
  | .flush => .output
  | .reported c _ _ => .ofCategory c
  | .reportedStream .. => .stream

/-- The category of a problem. -/
def category (p : Problem) : Category := p.kind.category

/-! ## Wording -/

/-- A partition outside the known ones. -/
def absentPartition (topic : String) (partition count : Int) : String :=
  "Topic " ++ topic ++ " (with partitions 0.." ++ intText (count - 1) ++ "): partition " ++
    intText partition ++ " does not exist"

/-- A topic, or a partition of it where one is known. -/
def place (topic : String) : Option Int → String
  | some p => topic ++ " [" ++ intText p ++ "]"
  | none => topic

/-- The wording of a problem, given a description of the failure behind it. -/
def message (description : String) : Problem → String
  | .misconfigured c => c.message
  | .offsetSpec s =>
    "Invalid offset '" ++ s ++ "': expected 'beginning', 'end', 'stored' or an integer"
  | .partitionSelection t p n => absentPartition t p n
  | .topicNotFound t _ => "No such topic in cluster: " ++ t
  | .topicError t e => "Topic " ++ t ++ " error: " ++ e
  | .noPartitions t => "Topic " ++ t ++ " has no partitions"
  | .partitionNotFound t p n => absentPartition t p n
  | .partitionError t p e => "Topic " ++ place t (some p) ++ " metadata error: " ++ e
  | .metadataQuery t _ => "Failed to query metadata for topic " ++ t ++ ": " ++ description
  | .metadataTimeout t s =>
    "Timed out after " ++ s.sixDigits ++ "s waiting for metadata of topic " ++ t
  | .connect servers => "Failed to connect to " ++ servers.shown ++ ": " ++ description
  | .openStream t p _ =>
    "Failed to start consuming topic " ++ place t (some p) ++ ": " ++ description
  | .stream t p _ => "Topic " ++ place t p ++ " error: " ++ description
  | .write size _ o =>
    "Write error for message of " ++ size.repr ++ " bytes at offset " ++ intText o
  | .shortWrite written size _ o =>
    "Short write for message at offset " ++ intText o ++ ": " ++ intText written ++ " of " ++
      size.repr ++ " bytes"
  | .flush => "Failed to flush output"
  | .reported _ m _ => m
  | .reportedStream m _ _ _ => m

/-! ## Context -/

/-- An optional integer as a value. -/
def optInt : Option Int → Value
  | some n => .int n
  | none => .null

/-- An optional text as a value. -/
def optText : Option String → Value
  | some s => .text s
  | none => .null

/-- The fields of a topic and a partition, where further fields may replace them. -/
def streamContext (topic partition : Value) (more : Fields) : Fields :=
  Fields.update [("topic", topic), ("partition", partition)] more

/-- The fields of a partition outside the known ones. -/
def absentContext (topic : String) (partition count : Int) : Fields :=
  [("topic", .text topic), ("partition", .int partition), ("partition_count", .int count)]

/-- The fields that a log record of the problem carries. -/
def context : Problem → Fields
  | .misconfigured c => c.context
  | .offsetSpec s => [("offset_spec", .text s)]
  | .partitionSelection t p n => absentContext t p n
  | .topicNotFound t more => Fields.update [("topic", .text t)] more
  | .topicError t e => [("topic", .text t), ("error", .text e)]
  | .noPartitions t => [("topic", .text t)]
  | .partitionNotFound t p n => absentContext t p n
  | .partitionError t p e => [("topic", .text t), ("partition", .int p), ("error", .text e)]
  | .metadataQuery _ context => context
  | .metadataTimeout t _ => [("topic", .text t)]
  | .connect servers => streamContext .null .null [("bootstrap_servers", servers)]
  | .openStream t p start => streamContext (.text t) (.int p) [("offset_directive", .offset start)]
  | .stream t p context => streamContext (.text t) (optInt p) context
  | .write _ p o => [("partition", .int p), ("offset", .int o)]
  | .shortWrite written _ p o =>
    [("partition", .int p), ("offset", .int o), ("bytes_written", .int written)]
  | .flush => []
  | .reported _ _ context => context
  | .reportedStream _ t p context => streamContext (optText t) (optInt p) context

/-- What the problem is about: the parts of it that stand on their own. -/
def subject : Problem → Fields
  | .offsetSpec s => [("spec", .text s)]
  | .partitionSelection t p _ => [("topic", .text t), ("partition", .int p)]
  | .topicNotFound t _ => [("topic", .text t)]
  | .topicError t e => [("topic", .text t), ("error", .text e)]
  | .noPartitions t => [("topic", .text t)]
  | .partitionNotFound t p n =>
    [("topic", .text t), ("partition", .int p), ("valid_range", .tuple [.int 0, .int (n - 1)])]
  | .partitionError t p e => [("topic", .text t), ("partition", .int p), ("error", .text e)]
  | .connect _ => [("topic", .null), ("partition", .null)]
  | .openStream t p _ => [("topic", .text t), ("partition", .int p)]
  | .stream t p _ => [("topic", .text t), ("partition", optInt p)]
  | .reportedStream _ t p _ => [("topic", optText t), ("partition", optInt p)]
  | .reported .stream _ _ => [("topic", .null), ("partition", .null)]
  | _ => []

end Problem

end TopicReader
