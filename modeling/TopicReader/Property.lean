import TopicReader.Text.Case
import TopicReader.Value.Convert

/-!
# `Property` — the client properties that a user may set

## Contents
- **The table.** `Property.supported`: every property with a line of description, and those that always are
  texts.
- **Names.** `Property.normalize`: dots and dashes are underscores, letter case does not count.
- **Values.** `Property.coerce`: words for truth values and integers are read as such.
- **Arguments.** `Property.ofArgument` reads a name and a value around an equals sign, `Property.ofPair` a
  pair from a file.
- **The listing.** `Property.listing`.
-/

namespace TopicReader.Property

open TopicReader.Text

/-- The properties that are passed on to the cluster's client, with a description each. -/
def supported : List (String × String) :=
  [("client_id", "Client name sent to the broker (default: kfc)"),
   ("group_id", "Consumer group id, required for -o stored"),
   ("auto_offset_reset",
    "earliest | latest | none, used when a stored or absolute offset is invalid"),
   ("enable_auto_commit", "Commit consumed offsets for the group (default: true with group.id)"),
   ("auto_commit_interval_ms", "Interval between automatic offset commits"),
   ("fetch_max_wait_ms", "Max time the broker waits to fill a fetch response"),
   ("fetch_min_bytes", "Min bytes the broker returns for a fetch"),
   ("fetch_max_bytes", "Max bytes the broker returns for a fetch"),
   ("max_partition_fetch_bytes", "Max bytes returned per partition per fetch"),
   ("max_poll_records", "Max records returned by a single dequeue"),
   ("request_timeout_ms", "Client request timeout"),
   ("retry_backoff_ms", "Backoff between retried requests"),
   ("metadata_max_age_ms", "Period after which metadata is refreshed"),
   ("connections_max_idle_ms", "Close idle connections after this many ms"),
   ("isolation_level", "read_uncommitted | read_committed"),
   ("check_crcs", "Verify record CRCs (true | false)"),
   ("api_version", "Broker API version, or auto"),
   ("exclude_internal_topics", "Hide internal topics from metadata (true | false)")]

/-- Is a property supported? -/
def isSupported (key : String) : Bool := supported.any fun p => p.1 == key

/-- The properties whose values always are texts. -/
def texts : List String :=
  ["client_id", "group_id", "auto_offset_reset", "isolation_level", "api_version"]

/-! ## Names -/

/-- What a name may start with to no effect. -/
def topicMark : List Char := "topic.".toList

/-- A separator as an underscore. -/
def underscored (c : Char) : Char := if c = '.' ∨ c = '-' then '_' else c

/-- The name without blanks around it and without its topic mark. -/
def bareName (name : String) : List Char :=
  let cs := trim name.toList
  if topicMark.isPrefixOf cs then cs.drop topicMark.length else cs

/-- The key of a property. -/
def normalize (name : String) : String := lower (String.ofList ((bareName name).map underscored))

/-! ## Values -/

/-- The integer or the truth value that a text spells; else the text itself. -/
def coerceText (s : String) : Value :=
  let word := lower (trimText s)
  if word = "true" then .bool true
  else if word = "false" then .bool false
  else
    match Whole.read s with
    | .ok n => .int n
    | .error _ => .text s

/-- The value of a property. -/
def coerce (key : String) (v : Value) : Except Failure Value :=
  if texts.contains key then v.showChecked.map .text
  else
    match v with
    | .text s => .ok (coerceText s)
    | v => .ok v

/-- A name and a value as a supported property. -/
def ofPair (name : String) (v : Value) : Except Failure (String × Value) :=
  let key := normalize name
  if isSupported key then (coerce key v).map fun v => (key, v)
  else .error (.misconfigured (.unknownProperty name))

/-- An argument as a supported property. -/
def ofArgument (argument : String) : Except Failure (String × Value) :=
  match cutAt ['='] argument.toList with
  | some (name, value) =>
    if (trim name).isEmpty then .error (.misconfigured (.propertyShape argument))
    else ofPair (String.ofList name) (.text (String.ofList value))
  | none => .error (.misconfigured (.propertyShape argument))

/-! ## The listing -/

/-- A name as the listing shows it. -/
def dotted (key : String) : List Char := key.toList.map fun c => if c = '_' then '.' else c

/-- The width of the widest name. -/
def nameWidth : Nat := supported.foldl (fun w p => max w p.1.length) 0

/-- A line of the listing. -/
def listingLine (p : String × String) : String :=
  let name := dotted p.1
  "  " ++ String.ofList (name ++ List.replicate (nameWidth - name.length) ' ') ++ "  " ++ p.2 ++ "\n"

/-- The supported properties, ordered by name. -/
def ordered : List (String × String) :=
  supported.mergeSort fun a b => !Value.lessChars b.1.toList a.1.toList

/-- The listing of the supported properties. -/
def listing : String :=
  "Supported client properties (-X name=value):\n" ++ String.join (ordered.map listingLine)

end TopicReader.Property
