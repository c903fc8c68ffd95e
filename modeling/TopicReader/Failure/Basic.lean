import TopicReader.Failure.Problem
import TopicReader.Text.Case

/-!
# `Failure` — everything that can be raised during a run

## Contents
- **From outside.** `Foreign`: a failure of the cluster's client, the output or the system, with the
  `Family` that decides how it is handled.
- **Shape mismatches.** `Mishap`: an operation met a value it cannot take; `MarkupStage` says where a
  document in markup broke the rules.
- **The type.** `Failure`: foreign, a mishap, or a classified `Problem`, possibly caused by another failure.
- **Description.** `describe` finds the symptom of a failure by its name, else by words in its text.
- **Text.** `Failure.text`, `Failure.message`, `Failure.name`.
-/

namespace TopicReader

open TopicReader.Text

/-- How a foreign failure is handled: those of the cluster's client, of the system, waits that ran out
    (a part of the system's), and refused values. -/
inductive Family where
  | broker
  | system
  | timeout
  | value
  | plain
deriving DecidableEq, Repr, Inhabited

/-- A failure that comes from outside. `home` is the place its name belongs to, and `named` the
    partitions it names, if it names any in a table. -/
structure Foreign where
  name : String
  family : Family
  text : String
  home : String
  named : Option (List (String × Int))
deriving DecidableEq, Repr, Inhabited

namespace Foreign

/-- Raised by the cluster's client. -/
def isBroker (f : Foreign) : Bool := f.family == .broker

/-- Raised by the operating system. -/
def isSystem (f : Foreign) : Bool := f.family == .system || f.family == .timeout

/-- A wait that ran out. -/
def isTimeout (f : Foreign) : Bool := f.family == .timeout

/-- A refused value. -/
def isValue (f : Foreign) : Bool := f.family == .value

/-- A failure with nothing but a name and a text. -/
def plain (name text : String) : Foreign := ⟨name, .plain, text, "", none⟩

end Foreign

/-- The stages of reading a document in markup. -/
inductive MarkupStage where
  | reading
  | scanning
  | parsing
  | composing
  | building
deriving DecidableEq, Repr, Inhabited

/-- The name of a fault that a stage finds. -/
def MarkupStage.faultName : MarkupStage → String
  | .reading => "ReaderError"
  | .scanning => "ScannerError"
  | .parsing => "ParserError"
  | .composing => "ComposerError"
  | .building => "ConstructorError"

/-- An operation met a value it cannot take. -/
inductive Mishap where
  | noSuchMember
  | wrongKind
  | wrongValue
  | undecodable
  | directory
  | fileThere
  | notDirectory
  | outOfRange
  | missingKey
  | emptyText
  | tooDeep
  | longName
  | halfCharacter
  | malformedMarkup (stage : MarkupStage)
deriving DecidableEq, Repr, Inhabited

/-- The name of a mishap. -/
def Mishap.name : Mishap → String
  | .noSuchMember => "AttributeError"
  | .wrongKind => "TypeError"
  | .wrongValue => "ValueError"
  | .undecodable => "UnicodeDecodeError"
  | .directory => "IsADirectoryError"
  | .fileThere => "FileExistsError"
  | .notDirectory => "NotADirectoryError"
  | .outOfRange => "OverflowError"
  | .missingKey => "KeyError"
  | .emptyText => "IndexError"
  | .tooDeep => "RecursionError"
  | .longName => "OSError"
  | .halfCharacter => "UnicodeEncodeError"
  | .malformedMarkup stage => stage.faultName

/-- Anything that can be raised. -/
inductive Failure where
  | foreign (f : Foreign)
  | mishap (m : Mishap) (text : String)
  | classified (p : Problem)
  | caused (p : Problem) (because : Failure)
deriving Repr, Inhabited

namespace Failure

/-- The name of a failure. -/
def name : Failure → String
  | .foreign f => f.name
  | .mishap m _ => m.name
  | .classified p => p.kind.name
  | .caused p _ => p.kind.name

/-! ## Description -/

/-- The symptoms that a message tells apart. -/
inductive Symptom where
  | connection
  | timeout
  | auth
  | notFound
  | data
deriving DecidableEq, Repr, Inhabited

/-- The failure names that decide a symptom. -/
def symptomNames : List (Symptom × List String) :=
  [(.connection, ["BrokerNotAvailableError", "KafkaConnectionError", "NodeNotReadyError",
      "LeaderNotAvailableError", "NotLeaderForPartitionError", "NetworkException",
      "CorrelationIdError"]),
   (.timeout, ["RequestTimedOutError", "KafkaTimeoutError", "TimeoutError"]),
   (.auth, ["TopicAuthorizationFailedError", "GroupAuthorizationFailedError",
      "ClusterAuthorizationFailedError", "SaslAuthenticationError"]),
   (.notFound, ["UnknownTopicOrPartitionError", "InvalidTopicError"]),
   (.data, ["OffsetOutOfRangeError", "MessageSizeTooLargeError", "RecordTooLargeError",
      "CorruptRecordException", "UnsupportedVersionError", "IllegalStateError"])]

/-- The symptom that a failure's name decides. -/
def symptomOfName (name : String) : Option Symptom :=
  (symptomNames.find? fun s => s.2.contains name).map (·.1)

/-- The words in a text that suggest a symptom, in order of precedence. -/
def symptomWords : List (Symptom × List String) :=
  [(.auth, ["unauthorized", "authentication", "authorization"]),
   (.timeout, ["timeout", "timed out"]),
   (.connection, ["connection", "broker", "network", "node not ready"])]

/-- The symptom that a text suggests, letter case aside. -/
def symptomOfText (text : String) : Option Symptom :=
  let low := lower text
  (symptomWords.find? fun s => s.2.any fun w => textOccursIn w low).map (·.1)

/-- The name of a symptom. -/
def Symptom.word : Symptom → String
  | .connection => "connection"
  | .timeout => "timeout"
  | .auth => "auth"
  | .notFound => "not_found"
  | .data => "data"

/-- What a message says of a symptom. -/
def Symptom.description : Symptom → String
  | .connection => "broker connection error"
  | .timeout => "request timed out"
  | .auth => "authorization failed"
  | .notFound => "unknown topic or partition"
  | .data => "fetch error"

/-- A short description of a failure from its name and its text. -/
def describeAs (name text : String) : String :=
  let detail := if text = "" then name else text
  match (symptomOfName name).orElse fun _ => symptomOfText text with
  | some s => s.description ++ ": " ++ detail
  | none => detail

/-! ## Text -/

/-- The text of a failure: its message, and after it the text of what caused it. -/
def text : Failure → String
  | .foreign f => f.text
  | .mishap _ t => t
  | .classified p => p.message ""
  | .caused p because =>
    p.message (describeAs because.name because.text) ++ " | Caused by: " ++ because.text

/-- A short description of a failure. -/
def describe (f : Failure) : String := describeAs f.name f.text

/-- The message alone, without causes. -/
def message : Failure → String
  | .caused p because => p.message because.describe
  | f => f.text

/-- The problem that a classified failure stands for. -/
def problem? : Failure → Option Problem
  | .classified p => some p
  | .caused p _ => some p
  | _ => none

/-- Is it a classified problem? -/
def isClassified (f : Failure) : Bool := f.problem?.isSome

/-- What caused a classified failure. -/
def because? : Failure → Option Failure
  | .caused _ f => some f
  | _ => none

/-- Raised by the cluster's client. -/
def isBroker : Failure → Bool
  | .foreign f => f.isBroker
  | _ => false

/-- Raised by the operating system. -/
def isSystem : Failure → Bool
  | .foreign f => f.isSystem
  | .mishap .directory _ => true
  | .mishap .longName _ => true
  | _ => false

/-- A wait that ran out. -/
def isTimeout : Failure → Bool
  | .foreign f => f.isTimeout
  | _ => false

/-- A refused value. -/
def isValue : Failure → Bool
  | .foreign f => f.isValue
  | .mishap .wrongValue _ => true
  | .mishap .undecodable _ => true
  | _ => false

/-- The settings are wrong. -/
def misconfigured (c : Misconfiguration) : Failure := .classified (.misconfigured c)

/-- Is it a problem with the settings? -/
def isConfig (f : Failure) : Bool :=
  match f.problem? with
  | some p => p.category == .config
  | none => false

/-- The place that a failure's name belongs to, with a point after it, if it is not the common one. -/
def home : Failure → String
  | .foreign f => if f.home = "" then "" else f.home ++ "."
  | .mishap .. => ""
  | _ => "core.errors.exceptions."

/-- The line that stands for a failure where details are shown. -/
def headline (f : Failure) : String :=
  let title := f.home ++ f.name
  if f.text = "" then title else title ++ ": " ++ f.text

/-- The fields that a log record of a failure carries. -/
def context (f : Failure) : Fields :=
  match f.problem? with
  | some p => p.context
  | none => []

/-- The category of a failure, if it is classified. -/
def category? (f : Failure) : Option Category := f.problem?.map (·.category)

/-! ## Classification -/

/-- A failure of a metadata query as a problem of the topic. A classified failure stays as it is. -/
def ofMetadataQuery (topic : String) (more : Fields) (f : Failure) : Failure :=
  if f.isClassified then f
  else
    let context : Fields :=
      Fields.update [("service", .text "kafka_metadata"), ("topic", .text topic)] more
    if symptomOfName f.name = some .notFound then .caused (.topicNotFound topic context) f
    else .caused (.metadataQuery topic context) f

/-- A failure of a stream as a problem of the topic, and of the partition where one is known. A
    classified failure stays as it is. -/
def ofStream (topic : String) (partition : Option Int) (more : Fields) (f : Failure) : Failure :=
  if f.isClassified then f
  else
    let context : Fields := Fields.update [("service", .text "kafka_consumer")] more
    .caused (.stream topic partition context) f

end Failure

end TopicReader
