import TopicReader.Failure.Basic
import TopicReader.Journal.Context

/-!
# `Journal` — the log records of a run

## Contents
- **Levels.** `Level` constants and `Level.name`.
- **Records.** `Entry`: level, origin, message, fields, the failure behind it, and the context at that moment.
- **The journal.** `Journal`: the context and the entries so far, the latest first; `write` adds one.
- **Logged computations.** `Logged`: a computation that may fail and keeps its log either way.
-/

namespace TopicReader

/-- How grave a log record is. -/
abbrev Level := Int

namespace Level

/-- For the curious. -/
def debug : Level := 10

/-- For the record. -/
def info : Level := 20

/-- Worth a look. -/
def warning : Level := 30

/-- Something failed. -/
def error : Level := 40

/-- Nothing works. -/
def critical : Level := 50

/-- The levels that have a name. -/
def names : List (Level × String) :=
  [(0, "NOTSET"), (debug, "DEBUG"), (info, "INFO"), (warning, "WARNING"), (error, "ERROR"),
   (critical, "CRITICAL")]

/-- The name of a level. -/
def name (l : Level) : String :=
  match names.find? fun n => n.1 == l with
  | some n => n.2
  | none => "Level " ++ intText l

end Level

/-- What is behind a log record: nothing, a failure, or an announced failure that was not there. -/
inductive Cause where
  | absent
  | missing
  | failure (f : Failure)
deriving Repr, Inhabited

/-- A log record. -/
structure Entry where
  level : Level
  origin : String
  message : String
  fields : Fields
  cause : Cause
  place : Option String
  run : RunContext
  position : Position
deriving Repr, Inhabited

/-- The log records of a run, the latest first, and the context for the next one. -/
structure Journal where
  run : RunContext
  position : Position
  entries : List Entry
deriving Repr, Inhabited

namespace Journal

/-- No records yet, and nothing known. -/
def empty : Journal := ⟨.empty, .empty, []⟩

/-- Add a record with the context of this moment. -/
def write (j : Journal) (level : Level) (origin message : String) (fields : Fields) (cause : Cause) :
    Journal :=
  { j with entries := ⟨level, origin, message, fields, cause, none, j.run, j.position⟩ :: j.entries }

/-- The records in the order in which they were added. -/
def records (j : Journal) : List Entry := j.entries.reverse

end Journal

/-- A computation that may fail; its log is kept either way. -/
abbrev Logged (α : Type) := ExceptT Failure (StateM Journal) α

namespace Logged

/-- Add a record. -/
def write (level : Level) (origin message : String) (fields : Fields) : Logged Unit :=
  modify fun j => j.write level origin message fields .absent

end Logged

end TopicReader
