import TopicReader.Command
import TopicReader.Transport.Basic
import Std.Time.Zoned

/-!
# `Main` — the program

Gathers what the command needs from the system, runs it, and puts what it leaves behind where it belongs. The
program is built without a network, so that every cluster is out of reach.

## Contents
- **Around the program.** Variables, files, the clock and random bytes.
- **Out of reach.** `noNetwork`.
- **Afterwards.** Standard output, standard error, the log file and certificate files.
-/

namespace TopicReader.Program

open TopicReader.Text

/-! ## Around the program -/

/-- The variables that the program looks at in any case. -/
def knownVariables : List String :=
  ["KAFKA_BOOTSTRAP_SERVERS", "KAFKA_URL", "KAFKA_SECURITY_PROTOCOL", "KAFKA_SASL_MECHANISM",
   "KAFKA_SASL_USERNAME", "KAFKA_SASL_PASSWORD", "KFC_CONFIG"] ++ Certificates.sources.map (·.name)

/-- The names that a text refers to. -/
def namesIn : List Char → List String
  | [] => []
  | c :: rest =>
    match Reference.ofChars? (c :: rest) with
    | some r => String.ofList r.name :: namesIn rest
    | none => namesIn rest

/-- The variables with some names. -/
def variablesNamed (names : List String) : IO Environment :=
  names.eraseDups.filterMapM fun n => do return (← IO.getEnv n).map fun v => (n, v)

/-- The bytes of a file, if it can be read. -/
def readFile? (path : String) : IO (Option (List UInt8)) := do
  try return some (← IO.FS.readBinFile path).toList
  catch _ => return none

/-- How deep the collections of a document may lie in each other. -/
def depth : Nat := 485

/-- The files with some paths. -/
def filesAt (paths : List String) : IO FileStore := do
  let files ← paths.eraseDups.filterMapM fun p => do return (← readFile? p).map fun bytes => (p, bytes)
  return ⟨files, depth⟩

/-- The present moment. -/
def now : IO DateTime := do
  let t ← Std.Time.PlainDateTime.now
  return ⟨⟨t.date.year.toNat, t.date.month.val.toNat, t.date.day.val.toNat⟩, t.time.hour.val.toNat,
    t.time.minute.val.toNat, t.time.second.val.toNat, t.time.nanosecond.val.toNat / 1000, none⟩

/-- Seconds on a clock that only goes forward. -/
def seconds : IO Double := do return Double.ofQuotient (← IO.monoNanosNow) 1000000000

/-- The file that a command line or a variable names. -/
def configPath? (texts : List String) (environment : Environment) : Option String :=
  match Arguments.ofList texts with
  | .ok a => FileSettings.pathOf a.config environment
  | .error _ => none

/-- What the program finds around it. -/
def surroundings (texts : List String) : IO Surroundings := do
  let dotfile ← filesAt [Environment.dotfileName]
  let known ← variablesNamed knownVariables
  let bound := (known.withDotfile dotfile).toOption.map (·.1)
  let files ← filesAt (Environment.dotfileName :: (configPath? texts (bound.getD known)).toList)
  let names := files.files.flatMap fun f => namesIn (Utf8.decodeLossy f.2).toList
  let started ← seconds
  return {
    environment := ← variablesNamed (knownVariables ++ names)
    files := files
    temporary := "kfc-certificates"
    loader := fun _ => .ok ()
    now := ← now
    random := (← IO.getRandomBytes 2).toList
    clock := ⟨started, started⟩
    interrupted := false }

/-! ## Out of reach -/

/-- No broker can be reached. -/
def unreachable : Failure :=
  .foreign ⟨"KafkaConnectionError", .broker, "KafkaConnectionError: no network", "", none⟩

/-- A network on which nothing can be reached. -/
def noNetwork : Network Unit where
  answer r _ :=
    match r with
    | .makeConsumer _ | .makeAdmin _ | .stopConsumer | .closeAdmin => (.ok (), ())
    | _ => (.error unreachable, ())

/-- The client for the settings of a run. -/
def clientFor (s : Settings) : Client (Transport Unit) :=
  Transport.client noNetwork ⟨s.connection, s.properties, fun _ => .ok ()⟩

/-! ## Afterwards -/

/-- How to use the program. -/
def usage : String :=
  "usage: kfc " ++ " ".intercalate (Flag.all.map fun f => "[" ++ f.title ++ "]") ++ " [topic]"

/-- Write the log file. -/
def writeLog (a : Aftermath) (moment : DateTime) : IO Unit := do
  for s in a.sinks do
    match s with
    | .file path _ _ =>
      let lines := (a.fileRecords.getD []).filterMap fun e =>
        (e.jsonLine Failure.headline moment).toOption
      IO.FS.writeFile path (String.join (lines.map (· ++ "\n")))
    | .console .. => pure ()

/-- Write the certificate files, each for its owner alone. -/
def writeCertificates (files : List WrittenFile) : IO Unit := do
  for f in files do
    IO.FS.createDirAll "kfc-certificates"
    IO.FS.writeFile f.path f.text
    IO.setAccessRights f.path { user := ⟨true, true, false⟩ }

/-- Say how a command ended, and its exit code. -/
def conclude (v : Verdict) : IO UInt32 := do
  match v with
  | .exit code => return code.toUInt32
  | .dismissed .help => IO.println usage; return 0
  | .dismissed (.refused e) =>
    IO.eprintln usage
    IO.eprintln ("kfc: error: " ++ e.message)
    return 2
  | .raised f => IO.eprintln f.headline; return 1
  | .unfinished => return 1

/-- More polls than a run without a network needs. -/
def pollLimit : Nat := 1000000

/-- The program. -/
def run (texts : List String) : IO UInt32 := do
  let w ← surroundings texts
  let a := Command.run clientFor (Transport.idle ()) w pollLimit texts
  writeCertificates a.written
  writeLog a w.now
  for line in a.consoleLines false Failure.headline w.now do
    IO.eprintln line
  let output ← IO.getStdout
  output.write ⟨a.printed.toArray⟩
  conclude a.verdict

end TopicReader.Program

/-- The program. -/
def main (texts : List String) : IO UInt32 := TopicReader.Program.run texts
