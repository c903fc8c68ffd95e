import TopicReader.Value.Text

/-!
# `Failure.Misconfiguration` — what can be wrong with the settings

## Contents
- **The causes.** `Misconfiguration`, one constructor a cause.
- **The allowed words.** `securityProtocols` and `saslMechanisms`.
- **Wording.** `Misconfiguration.message`, the values in it (`Misconfiguration.shown`), and
  `Misconfiguration.context` for the log.
-/

namespace TopicReader

open TopicReader.Text

/-- The security protocols that a connection may use. -/
def securityProtocols : List String := ["PLAINTEXT", "SSL", "SASL_PLAINTEXT", "SASL_SSL"]

/-- The ways to authenticate over a protocol that asks for it. -/
def saslMechanisms : List String := ["PLAIN", "SCRAM-SHA-256", "SCRAM-SHA-512"]

/-- A cause for refusing the settings. -/
inductive Misconfiguration where
  | wideDelimiter (text : String)
  | unknownDelimiter (text : String)
  | propertyShape (argument : String)
  | unknownProperty (name : String)
  | unsupportedProperty (key : String)
  | unknownConnectionSettings (keys : List Value)
  | timeoutNotInteger (key : String) (value : Value)
  | serversMissing
  | unknownProtocol (value : Value)
  | unknownMechanism (value : Value)
  | metadataTimeoutNotPositive (ms : Int)
  | topicMissing
  | negativePartition (n : Int)
  | negativeCount (n : Int)
  | delimiterLength (bytes : List UInt8)
  | keyDelimiterLength (bytes : List UInt8)
  | storedWithoutGroup
  | fileMissing (path : String)
  | fileMalformed (path : String)
  | sectionMissing (path : String)
  | certificates
deriving Repr, Inhabited

namespace Misconfiguration

/-- Words as a quoted list. -/
def quotedWords (words : List String) : String := "[" ++ commaJoin (words.map quoteText) ++ "]"

/-- The wording of a cause. -/
def message : Misconfiguration → String
  | .wideDelimiter t => "Delimiter must be a single byte, got " ++ quoteText t
  | .unknownDelimiter t =>
    "Invalid delimiter " ++ quoteText t ++
      ": expected one character or an escape like \\n, \\t, \\x1f"
  | .propertyShape a =>
    "Expected -X property=value, not " ++ a ++ ", use -X list to display available properties"
  | .unknownProperty n =>
    "Unknown client property: " ++ n ++ ", use -X list to display available properties"
  | .unsupportedProperty k => "Unknown client property: " ++ k
  | .unknownConnectionSettings ks =>
    "Unknown kafka.connection settings: " ++ (Value.list ks).quoted
  | .timeoutNotInteger k v => k ++ " must be an integer, got " ++ v.quoted
  | .serversMissing => "bootstrap_servers is required"
  | .unknownProtocol v =>
    "security_protocol must be one of " ++ quotedWords securityProtocols ++ ", got '" ++
      v.shown ++ "'"
  | .unknownMechanism v =>
    "sasl_mechanism must be one of " ++ quotedWords saslMechanisms ++ ", got '" ++ v.shown ++ "'"
  | .metadataTimeoutNotPositive n => "metadata_timeout_ms must be > 0, got " ++ intText n
  | .topicMissing => "topic missing"
  | .negativePartition n => "partition must be >= 0, got " ++ intText n
  | .negativeCount n => "count must be >= 0, got " ++ intText n
  | .delimiterLength bs => "delimiter must be a single byte, got " ++ quoteBytes bs
  | .keyDelimiterLength bs => "key delimiter must be a single byte, got " ++ quoteBytes bs
  | .storedWithoutGroup => "Stored offsets require a consumer group: use -X group.id=<group>"
  | .fileMissing p => "Configuration file not found: " ++ p
  | .fileMalformed p => "Invalid YAML in " ++ p
  | .sectionMissing p => "Invalid config file " ++ p ++ ": missing 'kafka:' section"
  | .certificates => "Failed to load TLS certificates"

/-- The values that the wording of a cause shows as they are. -/
def shown : Misconfiguration → List Value
  | .unknownConnectionSettings ks => ks
  | .timeoutNotInteger _ v | .unknownProtocol v | .unknownMechanism v => [v]
  | .metadataTimeoutNotPositive n | .negativePartition n | .negativeCount n => [.int n]
  | _ => []

/-- The fields that a log record of the cause carries. -/
def context : Misconfiguration → Fields
  | .unknownProperty n => [("property", .text n)]
  | _ => []

end Misconfiguration

end TopicReader
