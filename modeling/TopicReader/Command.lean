import TopicReader.Arguments
import TopicReader.Certificates
import TopicReader.Environment.Dotfile
import TopicReader.Journal.Line
import TopicReader.Journal.Setup
import TopicReader.Run.Consume
import TopicReader.Settings.File

/-!
# `Command` — the program from its command line to its exit code

## Contents
- **Surroundings.** `Surroundings`: what the program finds around it.
- **Settings.** `Arguments.settings`: a file, the environment and the command line, the later winning.
- **Dump.** `Dump`: what the consumer would be told, the password masked.
- **Plan.** `Plan`: list the properties, dump the settings, or consume a topic.
- **The command.** `Command.run`, and what it leaves behind (`Aftermath`).
-/

namespace TopicReader

open TopicReader.Text

/-- What the program finds around it. `temporary` is a new directory, `interrupted` says whether the user
    interrupts the run before it starts. -/
structure Surroundings where
  environment : Environment
  files : FileStore
  temporary : String
  loader : TlsLoader
  now : DateTime
  random : List UInt8
  clock : Clock
  interrupted : Bool

/-! ## Settings -/

namespace Arguments

/-- A connection with the servers of the command line, where it names any. -/
def withBrokers (a : Arguments) (c : Connection) : Connection :=
  match a.brokers with
  | some s => if s = "" then c else { c with servers := .text s }
  | none => c

/-- Set the properties of the command line, except for its commands. -/
def withProperties (fs : Fields) : List String → Except Failure Fields
  | [] => .ok fs
  | p :: rest =>
    if commandWords.contains p then withProperties fs rest
    else do
      let (key, v) ← Property.ofArgument p
      withProperties (fs.put key v) rest

/-- The settings for a connection and properties. -/
def settingsWith (a : Arguments) (c : Connection) (properties : Fields) : Settings :=
  { topic := a.topic.getD "", partition := a.partition, offset := a.offset, delimiter := a.delimiter,
    keyDelimiter := a.keyDelimiter, count := a.count, exitOnEnd := a.exitOnEnd,
    printOffset := a.printOffset, unbuffered := a.unbuffered, verbosity := a.verbosity,
    connection := c, properties := properties }

/-- The settings that a command line asks for, and the files that were written for them. -/
def settings (a : Arguments) (w : Surroundings) : Logged (Settings × List WrittenFile) := do
  let file ← FileSettings.load a.config w.environment w.files
  let merged ← (Connection.ofEnvironment w.environment).merged file.connection
  let placed ← Certificates.materialize (a.withBrokers merged) w.environment w.temporary
  let (c, written) := placed.getD (a.withBrokers merged, [])
  let properties ← withProperties file.properties a.properties
  c.validate
  return (a.settingsWith c properties, written)

end Arguments

/-! ## Dump -/

/-- Parts that must be texts, joined by commas. -/
def joinTexts (vs : List Value) : Except Failure String := do
  let parts ← vs.mapM fun v =>
    match v with
    | .text s => Except.ok s
    | v => .error (.mishap .wrongKind ("expected str instance, " ++ v.kindWord ++ " found"))
  return commaJoin parts

/-- The files of certificates, or a word for none. -/
def certificateText (c : Connection) : Except Failure String := do
  let files ← joinTexts ([c.authority, c.certificate, c.privateKey].filter Value.truthy)
  return if files = "" then "default" else files

/-- What stands for a password. -/
def mask : String := "********"

/-- The value of a setting as the dump shows it. -/
def dumpValue (c : Connection) (key : String) (v : Value) : Except Failure String :=
  if key = "sasl_plain_password" ∧ v.truthy then .ok mask
  else if key = "ssl_context" then certificateText c
  else v.showChecked

/-- What a dump prints, and the failure at which it ends early, if there is one. -/
structure Dump where
  text : String
  failure : Option Failure
deriving Repr, Inhabited

namespace Dump

/-- The lines for some settings, up to the first one that cannot be shown. -/
def ofSettings (c : Connection) : Fields → Dump
  | [] => ⟨"", none⟩
  | (key, v) :: rest =>
    match dumpValue c key v with
    | .ok shown =>
      let more := ofSettings c rest
      { more with text := key ++ " = " ++ shown ++ "\n" ++ more.text }
    | .error f => ⟨"", some f⟩

/-- Fields ordered by name. -/
def ordered (fs : Fields) : Fields := fs.mergeSort fun a b => !Value.lessChars b.1.toList a.1.toList

/-- What the consumer would be told, ordered by name. -/
def ofRun (loader : TlsLoader) (s : Settings) : Dump :=
  match Connection.consumerSettings loader s.connection s.properties with
  | .ok told => ofSettings s.connection (ordered told)
  | .error f => ⟨"", some f⟩

end Dump

/-! ## Plan -/

/-- What a command line comes to. -/
inductive Plan where
  | list
  | dump (d : Dump)
  | consume (s : Settings)
deriving Repr, Inhabited

namespace Plan

/-- Does a command line ask for the list of properties? -/
def asksForList (a : Arguments) : Bool := a.properties.any fun p => p = "list" || p = "help"

/-- Does a command line ask for a dump? -/
def asksForDump (a : Arguments) : Bool := a.properties.contains "dump"

/-- What a command line comes to, and the files that were written for it. -/
def ofArguments (a : Arguments) (w : Surroundings) : Logged (Plan × List WrittenFile) :=
  if asksForList a then return (.list, [])
  else do
    let (s, written) ← a.settings w
    return (if asksForDump a then .dump (.ofRun w.loader s) else .consume s, written)

end Plan

/-! ## The command -/

/-- How a command ends: with an exit code, with a command line that leads to no run, with a failure that
    nothing takes care of, or not at all. -/
inductive Verdict where
  | exit (code : Nat)
  | dismissed (d : Dismissal)
  | raised (f : Failure)
  | unfinished
deriving Repr, Inhabited

/-- What a command leaves behind. -/
structure Aftermath where
  verdict : Verdict
  warnings : List String
  sinks : List LogSink
  journal : Journal
  printed : List UInt8
  events : List Event
  written : List WrittenFile

namespace Command

/-- The origin of the records about the command. -/
def origin : String := "kfc.__main__"

/-- What is said about a line that binds no variable. -/
def lineWarning (n : Nat) : String := "python-dotenv could not parse statement starting at line " ++ n.repr

/-- Nothing but a verdict. -/
def bare (v : Verdict) (warnings : List String) : Aftermath := ⟨v, warnings, [], .empty, [], [], []⟩

/-- The options of the log. -/
def setupOptions (a : Arguments) (w : Surroundings) : SetupOptions :=
  { SetupOptions.usual with
    verbosity := a.verbosity
    logFile := a.logFile
    stage := some "consume"
    runId := some (runName w.now w.random) }

/-- What the ending of a run makes of the command. -/
def verdictOf : Option Ending → Verdict
  | none => .unfinished
  | some (.raised f) => .raised f
  | some ending => .exit ending.code

/-- Consume a topic with the client for the settings. -/
def consume {σ : Type} (clientFor : Settings → Client σ) (client : σ) (w : Surroundings) (s : Settings)
    (fuel : Nat) (after : Aftermath) : Aftermath :=
  if w.interrupted then
    { after with
      verdict := .exit 0
      journal := after.journal.write Level.info origin "Keyboard interrupt received, shutting down" []
        .absent }
  else
    let (ending, run) :=
      (Run.fresh client after.journal).consume (clientFor s) .steady s w.clock fuel
    { after with
      verdict := verdictOf ending
      journal := run.journal
      printed := run.output.bytes
      events := run.events }

/-- Something failed before a run: wrong settings are logged, and anything else is nobody's. -/
def giveUp (after : Aftermath) (f : Failure) : Aftermath :=
  if f.isConfig then
    { after with
      verdict := .exit 1
      journal := after.journal.writeFailure Level.error origin f.text [] false f }
  else { after with verdict := .raised f }

/-- Print a text; then the command is over, or it fails. -/
def print (text : String) (failure : Option Failure) (after : Aftermath) : Aftermath :=
  let after := { after with verdict := .exit 0, printed := Utf8.encode text }
  match failure with
  | none => after
  | some f => giveUp after f

/-- Carry out a plan. -/
def carryOut {σ : Type} (clientFor : Settings → Client σ) (client : σ) (w : Surroundings) (fuel : Nat)
    (after : Aftermath) : Plan → Aftermath
  | .list => print Property.listing none after
  | .dump d => print d.text d.failure after
  | .consume s => consume clientFor client w s fuel after

/-- The failure that an obstacle leads to. -/
def obstacleFailure (path : String) : Obstacle → Failure
  | .directory => .mishap .directory ("[Errno 21] Is a directory: " ++ quoteText path)
  | .fileAbove => .mishap .fileThere ("[Errno 17] File exists: " ++ quoteText path)
  | .fileFurtherUp => .mishap .notDirectory ("[Errno 20] Not a directory: " ++ quoteText path)
  | .longName => FileSettings.longName path

/-- Why the log cannot go to its file, if it cannot. -/
def logFileFailure? (a : Arguments) (w : Surroundings) : Option Failure := do
  let path ← a.logFile
  return obstacleFailure path (← w.files.obstacle? path)

/-- From the arguments on. -/
def runWith {σ : Type} (clientFor : Settings → Client σ) (client : σ) (w : Surroundings) (fuel : Nat)
    (warnings : List String) (a : Arguments) : Aftermath :=
  match logFileFailure? a w with
  | some f => bare (.raised f) warnings
  | none =>
    let setup := Setup.empty.apply (setupOptions a w)
    let (plan, journal) := (Plan.ofArguments a w).run.run setup.journal
    let after : Aftermath := ⟨.unfinished, warnings, setup.sinks, journal, [], [], []⟩
    match plan with
    | .ok (p, written) => carryOut clientFor client w fuel { after with written := written } p
    | .error f => giveUp after f

/-- The whole program. A file with variables is read before anything else. -/
def run {σ : Type} (clientFor : Settings → Client σ) (client : σ) (w : Surroundings) (fuel : Nat)
    (texts : List String) : Aftermath :=
  match w.environment.withDotfile w.files with
  | .error f => bare (.raised f) []
  | .ok (environment, wrong) =>
    let warnings := wrong.map lineWarning
    match Arguments.ofList texts with
    | .error d => bare (.dismissed d) warnings
    | .ok a => runWith clientFor client { w with environment := environment } fuel warnings a

end Command

/-! ## What is shown -/

namespace Aftermath

/-- The console's level, and whether it shows details. -/
def console (a : Aftermath) : Level × Bool :=
  match a.sinks with
  | .console level detailed :: _ => (level, detailed)
  | _ => (Level.warning, false)

/-- The lines for the console, given what is shown of a failure at length. -/
def consoleLines (a : Aftermath) (coloured : Bool) (detail : Failure → String) (now : DateTime) :
    List String :=
  let (level, detailed) := a.console
  let shown := a.journal.records.filter fun e => level ≤ e.level
  a.warnings ++ shown.map fun e => e.consoleLine coloured detailed detail now

/-- The records for the log file, if there is one. -/
def fileRecords (a : Aftermath) : Option (List Entry) :=
  a.sinks.findSome? fun s =>
    match s with
    | .file _ level _ => some (a.journal.records.filter fun e => level ≤ e.level)
    | .console .. => none

end Aftermath

end TopicReader
