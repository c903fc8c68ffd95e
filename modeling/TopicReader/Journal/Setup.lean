import TopicReader.Journal.Basic

/-!
# `Journal.Setup` — where log records go

## Contents
- **Verbosity.** `levelOf`: the level from which on the console shows records.
- **Sinks.** `LogSink`: the console or a file, with a level each.
- **Setup.** `Setup.apply`: what a set of options makes of the sinks, the quieted origins and the context.
-/

namespace TopicReader

/-- The level from which on the console shows records. -/
def levelOf (verbosity : Int) : Level :=
  if verbosity ≤ 0 then Level.error
  else if verbosity = 1 then Level.warning
  else if verbosity = 2 then Level.info
  else Level.debug

/-- The origins inside the cluster's client that say much. -/
def noisyOrigins : List String :=
  ["aiokafka", "aiokafka.conn", "aiokafka.consumer.fetcher", "aiokafka.cluster"]

/-- The layout of a log file's lines. -/
inductive FileLayout where
  | json
  | plain
deriving DecidableEq, Repr

/-- A place where log records go. -/
inductive LogSink where
  | console (level : Level) (detailed : Bool)
  | file (path : String) (level : Level) (layout : FileLayout)
deriving DecidableEq, Repr

/-- Does a sink take records of a level? -/
def LogSink.takes (s : LogSink) (level : Level) : Bool :=
  match s with
  | .console l _ => l ≤ level
  | .file _ l _ => l ≤ level

/-- The options of a setup. -/
structure SetupOptions where
  name : String
  verbosity : Int
  logFile : Option String
  json : Bool
  fileLevel : Level
  quiet : Bool
  stage : Option String
  runId : Option String
deriving Repr

/-- The options where nothing else is asked for. -/
def SetupOptions.usual : SetupOptions :=
  ⟨"kfc", 1, none, true, Level.debug, true, none, none⟩

/-- What a setup leaves behind. -/
structure Setup where
  sinks : List LogSink
  quieted : List String
  journal : Journal
deriving Repr

namespace Setup

/-- Before any setup. -/
def empty : Setup := ⟨[], [], .empty⟩

/-- A text that is given and not empty. -/
def given (s : Option String) : Option String := s.filter (· != "")

/-- The line that reports a setup. -/
def report (o : SetupOptions) : String :=
  "Logging initialized: verbosity=" ++ intText o.verbosity ++ ", file=" ++ o.logFile.getD "None" ++
    ", json=" ++ boolText o.json

/-- Set up the sinks anew; quieted origins stay quiet. -/
def apply (s : Setup) (o : SetupOptions) : Setup :=
  let level := levelOf o.verbosity
  let run := s.journal.run.update (given o.runId) (given o.stage) none
  let console := LogSink.console level (level ≤ Level.debug)
  let file :=
    match o.logFile with
    | some path => [LogSink.file path o.fileLevel (if o.json then .json else .plain)]
    | none => []
  let journal := { s.journal with run := run }
  { sinks := console :: file
    quieted := if o.quiet && Level.debug < level then noisyOrigins else s.quieted
    journal := journal.write Level.debug o.name (report o) [] .absent }

end Setup

end TopicReader
