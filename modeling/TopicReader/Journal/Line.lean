import TopicReader.Journal.Basic
import TopicReader.Json

/-!
# `Journal.Line` — log records as lines of text

## Contents
- **Clock.** `stamp` and `plainStamp`: the moment in front of a line.
- **JSON.** `Entry.document`: the members in a fixed order, of which some are kept numbers; `Entry.jsonLine`.
- **Console.** `Entry.consoleLine`: level, stage, partition and message, in colours if asked for.
-/

namespace TopicReader

open TopicReader.Text

namespace Line

/-! ## Clock -/

/-- A time of day with colons. -/
def clockText (t : DateTime) : List Char :=
  decimalPadded 2 t.hour ++ ':' :: decimalPadded 2 t.minute ++ ':' :: decimalPadded 2 t.second

/-- The moment of a JSON line, cut to milliseconds. -/
def stamp (t : DateTime) : String :=
  String.ofList (t.date.iso.toList ++ 'T' :: clockText t ++ '.' :: decimalPadded 3 (t.micro / 1000) ++
    ['Z'])

/-- The moment of a console line. -/
def plainStamp (t : DateTime) : String := String.ofList (t.date.iso.toList ++ ' ' :: clockText t)

/-! ## JSON -/

/-- How a field that must be a number is read. -/
inductive NumberKind where
  | whole
  | real
deriving DecidableEq, Repr

/-- The fields of a record that a JSON line shows, in order, and those that must be numbers. -/
def shownFields : List (String × Option NumberKind) :=
  [("topic", none), ("partition", some .whole), ("offset", some .whole), ("partitions", none),
   ("partition_count", some .whole), ("bootstrap_servers", none), ("offset_directive", none),
   ("group_id", none), ("eof_count", some .whole), ("threshold", some .whole),
   ("messages_consumed", some .whole), ("limit", some .whole), ("reason", none),
   ("error_category", none), ("error_message", none), ("error_type", none), ("error", none),
   ("bytes_written", some .whole), ("duration_ms", some .real)]

/-- A number that must be one, or null if the value is none; what is out of range is refused. -/
def numberOrNull {α : Type} (make : α → Value) (r : Except Failure α) : Except Failure Value :=
  match r with
  | .ok x => .ok (make x)
  | .error (.mishap .wrongValue _) => .ok .null
  | .error (.mishap .wrongKind _) => .ok .null
  | .error f => .error f

/-- The value of a field as a JSON line shows it. -/
def fieldValue (kind : Option NumberKind) (v : Value) : Except Failure Value :=
  match kind with
  | none => .ok v
  | some .whole => numberOrNull .int v.toInt
  | some .real => numberOrNull .float v.toDouble

/-- The fields of a record as a JSON line shows them; what is null is left out. -/
def fieldValues (fields : Fields) : List (String × Option NumberKind) → Except Failure Fields
  | [] => .ok []
  | (name, kind) :: rest =>
    match fields.get? name with
    | none | some .null => fieldValues fields rest
    | some v => do return (name, ← fieldValue kind v) :: (← fieldValues fields rest)

/-- What is known of the run: nothing that is empty. -/
def runValues (run : RunContext) : Fields := run.fields.filter fun f => f.2.truthy

/-- Some fields as members. -/
def members : Fields → Except Failure (List (String × Json))
  | [] => .ok []
  | (name, v) :: rest => do return (name, ← v.toJson) :: (← members rest)

/-- What a line shows where no failure was there. -/
def noFailure : String := "NoneType: None"

/-- The member for the failure behind a record. `detail` is what is shown of it at length. -/
def causeMembers (detail : Failure → String) : Cause → List (String × Json)
  | .absent => []
  | .missing =>
    [("exception", .object [("type", .null), ("message", .null), ("stacktrace", .text noFailure)])]
  | .failure f =>
    [("exception", .object
      [("type", .text f.name), ("message", .text f.text), ("stacktrace", .text (detail f))])]

/-- The levels whose lines say where they come from. -/
def placedLevels : List Level := [Level.debug, Level.error, Level.critical]

/-- The member for the place that a record comes from. -/
def placeMembers (e : Entry) : List (String × Json) :=
  match e.place with
  | some p => if placedLevels.contains e.level then [("file", .text p)] else []
  | none => []

/-! ## Console -/

/-- The colours of the levels. -/
def colours : List (Level × String) :=
  [(Level.debug, "36"), (Level.info, "32"), (Level.warning, "33"), (Level.error, "31"),
   (Level.critical, "35")]

/-- A colour switched on. -/
def colourOn (code : String) : String := String.ofList [Char.ofNat 0x1b, '['] ++ code ++ "m"

/-- The name of a level, in its colour if colours are asked for. -/
def levelText (coloured : Bool) (l : Level) : String :=
  match colours.find? fun c => c.1 == l with
  | some c => if coloured then colourOn c.2 ++ l.name ++ colourOn "0" else l.name
  | none => l.name

/-- The partition that a record is about: its own field, else the record at hand. -/
def partitionOf (e : Entry) : Value :=
  match e.fields.get? "partition" with
  | none | some .null => if e.position.partition < 0 then .null else .int e.position.partition
  | some v => v

/-- The mark for the partition of a record. -/
def partitionMark (e : Entry) : String :=
  match partitionOf e with
  | .null => ""
  | v => "[p:" ++ v.shown ++ "] "

end Line

namespace Entry

open Line

/-- What a line always says. -/
def heading (now : DateTime) (e : Entry) : List (String × Json) :=
  [("ts", .text (stamp now)), ("level", .text e.level.name), ("logger", .text e.origin), ("message", .text e.message)]

/-- The JSON document of a record. All numbers are made of fields before anything is written. -/
def document (detail : Failure → String) (now : DateTime) (e : Entry) : Except Failure Json := do
  let shown ← fieldValues e.fields shownFields
  let context ← members (runValues e.run ++ e.position.fields)
  let fields ← members shown
  return .object (e.heading now ++ context ++ placeMembers e ++ fields ++ causeMembers detail e.cause)

/-- A record as a line of JSON. -/
def jsonLine (detail : Failure → String) (now : DateTime) (e : Entry) : Except Failure String :=
  (e.document detail now).map Json.render

/-- What the console shows of the failure behind a record, where details are asked for. -/
def consoleDetail (detail : Failure → String) (e : Entry) : String :=
  match e.cause with
  | .absent => ""
  | .missing => "\n" ++ noFailure
  | .failure f => "\n" ++ detail f

/-- A record as a line for the console. -/
def consoleLine (coloured detailed : Bool) (detail : Failure → String) (now : DateTime) (e : Entry) :
    String :=
  let stage := if e.run.stage = "" then "" else " - [" ++ e.run.stage ++ "]"
  plainStamp now ++ " - " ++ levelText coloured e.level ++ stage ++ " - " ++ partitionMark e ++
    e.message ++ (if detailed then consoleDetail detail e else "")

end Entry

end TopicReader
