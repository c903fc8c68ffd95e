import TopicReader.Connection.Basic
import TopicReader.Limit
import TopicReader.Property

/-!
# `Settings` — everything that one run is asked to do

## Contents
- **The settings.** `Settings`: what to read, from where on, how to write it, and when to stop.
- **Derived.** `Settings.groupId`, `Settings.limit`, and all of it in `Settings.fields`.
- **Checking.** `Settings.validate`; a refusal shows the number that it is about, if that can be written out.
-/

namespace TopicReader

open TopicReader.Text

/-- The settings of a run. -/
structure Settings where
  topic : String
  partition : Option Int
  offset : String
  delimiter : List UInt8
  keyDelimiter : Option (List UInt8)
  count : Option Int
  exitOnEnd : Bool
  printOffset : Bool
  unbuffered : Bool
  verbosity : Int
  connection : Connection
  properties : Fields
deriving Repr, Inhabited

namespace Settings

/-- The settings for a topic where nothing else is asked for. -/
def usual (topic : String) : Settings :=
  { topic := topic, partition := none, offset := "beginning", delimiter := [0x0a],
    keyDelimiter := none, count := none, exitOnEnd := false, printOffset := false,
    unbuffered := false, verbosity := 1, connection := .usual, properties := [] }

/-- The consumer group, if one is set. -/
def groupId (s : Settings) : Value := (s.properties.get? "group_id").getD .null

/-- The number of records after which to stop, if there is one. -/
def limit (s : Settings) : Limit := .ofCount s.count

/-- An optional integer as a value. -/
def countValue (n : Option Int) : Value := (n.map Value.int).getD .null

/-- The settings with their values, and what is derived from them. -/
def fields (s : Settings) : Fields :=
  [("topic", .text s.topic), ("partition", countValue s.partition), ("offset", .text s.offset),
   ("delimiter", .bytes false s.delimiter),
   ("key_delimiter", (s.keyDelimiter.map (Value.bytes false)).getD .null),
   ("count", countValue s.count), ("exit_on_eof", .bool s.exitOnEnd),
   ("print_offset", .bool s.printOffset), ("unbuffered", .bool s.unbuffered),
   ("verbosity", .int s.verbosity), ("connection", .map s.connection.fields.toMapping),
   ("client_properties", .map s.properties.toMapping), ("group_id", s.groupId),
   ("message_limit", countValue (s.limit.map Int.ofNat))]

/-- A number that must not be negative. -/
def refuseNegative (n : Option Int) (m : Int → Misconfiguration) : Except Failure Unit :=
  match n with
  | some n => if n < 0 then .error (.refusing (m n)) else .ok ()
  | none => .ok ()

/-- A delimiter that must be one byte. -/
def refuseLength (bytes : Option (List UInt8)) (m : List UInt8 → Misconfiguration) :
    Except Failure Unit :=
  match bytes with
  | some bs => if bs.length = 1 then .ok () else .error (.misconfigured (m bs))
  | none => .ok ()

/-- Check the properties' names. -/
def checkProperties : Fields → Except Failure Unit
  | [] => .ok ()
  | (key, _) :: rest =>
    if Property.isSupported key then checkProperties rest
    else .error (.misconfigured (.unsupportedProperty key))

/-- Check that the settings can be used for a run. -/
def validate (s : Settings) : Except Failure Unit := do
  if s.topic = "" then throw (.misconfigured .topicMissing)
  refuseNegative s.partition .negativePartition
  refuseNegative s.count .negativeCount
  refuseLength (some s.delimiter) .delimiterLength
  refuseLength s.keyDelimiter .keyDelimiterLength
  if trimText s.offset = "stored" ∧ s.groupId.truthy = false then
    throw (.misconfigured .storedWithoutGroup)
  checkProperties s.properties
  s.connection.validate

end Settings

end TopicReader
