import TopicReader.Journal.Basic

/-!
# `Journal.Report` — records with fields, and records of failures

## Contents
- **Names.** `recordNames`: the names that a record has for itself; `reservedNames`: those that are kept out of it.
- **With fields.** `plainFields` leaves reserved names out.
- **Of a failure.** `failureFields`: what the caller gives wins over the failure's own context.
- **Refusal.** `admissible`: a record whose fields use a name of its own is refused.
- **Loggers.** `Journal.reportFailure` and `Journal.report`: what is left of a record that a logger is given.
-/

namespace TopicReader.Report

/-- The names that a record has for itself, in release 3.11 of the library that makes it: its attributes, and two that
    its text is kept under. Later releases have more. -/
def recordNames : List String :=
  ["name", "msg", "args", "levelname", "levelno", "pathname", "filename", "module", "exc_info",
   "exc_text", "stack_info", "lineno", "funcName", "created", "msecs", "relativeCreated", "thread",
   "threadName", "processName", "process", "message", "asctime"]

/-- Has a record this name for itself? -/
def isTaken (name : String) : Bool := recordNames.contains name

/-- The names that are kept out of a record. -/
def reservedNames : List String :=
  ["name", "msg", "args", "levelname", "levelno", "pathname", "filename", "module", "lineno",
   "funcName", "created", "asctime", "msecs", "relativeCreated", "thread", "threadName",
   "processName", "process", "message", "exc_info", "exc_text", "stack_info"]

/-- Is a name reserved? -/
def isReserved (name : String) : Bool := reservedNames.contains name

/-- The fields that may stand in a record. -/
def plainFields (fields : Fields) : Fields := fields.filter fun f => !isReserved f.1

/-- The greatest length of a failure's text in a record. -/
def textLimit : Nat := 500

/-- The text of a failure, cut if it is long. -/
def clippedText (f : Failure) : String :=
  let cs := f.text.toList
  if textLimit < cs.length then String.ofList (cs.take textLimit ++ "...".toList) else f.text

/-- The category of a failure, unless the caller gave one. -/
def withCategory (f : Failure) (given : Fields) : Fields :=
  if ((given.get? "error_category").getD .null).isNull then
    match f.category? with
    | some c => given.put "error_category" (.text c.word)
    | none => given
  else given

/-- The context of a failure, where the caller gave nothing. -/
def withContext (f : Failure) (given : Fields) : Fields :=
  f.context.foldl
    (fun acc e => if isReserved e.1 || e.2.isNull then acc else acc.putNew e.1 e.2) given

/-- The fields of a record of a failure. -/
def failureFields (f : Failure) (given : Fields) : Fields :=
  ((withContext f (withCategory f given)).put "error_message" (.text (clippedText f))).putNew
    "error_type" (.text f.name)

/-- A record whose fields use a name of its own is refused. -/
def admissible (fields : Fields) : Except Failure Unit :=
  match fields.find? fun e => isTaken e.1 with
  | some e => .error (.mishap .missingKey ("\"Attempt to overwrite '" ++ e.1 ++ "' in LogRecord\""))
  | none => .ok ()

end TopicReader.Report

namespace TopicReader.Journal

/-- Add a record of a failure, with or without the failure itself. -/
def writeFailure (j : Journal) (level : Level) (origin message : String) (given : Fields)
    (detailed : Bool) (f : Failure) : Journal :=
  j.write level origin message (Report.failureFields f given)
    (if detailed then .failure f else .absent)

/-- Report a failure to a logger that takes records from the threshold on. What the caller gives is not looked through
    for reserved names, so the record may be refused. -/
def reportFailure (j : Journal) (threshold level : Level) (origin message : String) (given : Fields)
    (detailed : Bool) (f : Failure) : Except Failure Journal :=
  if level < threshold then .ok j
  else
    (Report.admissible (Report.failureFields f given)).map fun _ =>
      j.writeFailure level origin message given detailed f

/-- Report anything else to such a logger, without the fields that use a reserved name. -/
def report (j : Journal) (threshold level : Level) (origin message : String) (given : Fields) (cause : Cause) :
    Journal :=
  if level < threshold then j else j.write level origin message (Report.plainFields given) cause

end TopicReader.Journal
