import TopicReader.Connection.Basic
import TopicReader.Journal.Basic
import TopicReader.Path

/-!
# `Certificates` — certificates and keys that the environment holds

## Contents
- **The table.** `Certificates.sources`: a variable, the setting it serves, and the name of its file.
- **Writing.** `WrittenFile`, readable by its owner alone.
- **Materialising.** `Certificates.materialize`: settings that are given already win over the environment.

Files are always written: a directory that takes none is left out, and so is half of a surrogate pair in a variable,
which has no bytes of its own.
-/

namespace TopicReader

/-- A file that was written, with its access mode. -/
structure WrittenFile where
  path : String
  text : String
  mode : Nat
deriving DecidableEq, Repr

namespace Certificates

/-- A variable that may hold a certificate or a key. -/
structure Source where
  name : String
  setting : Setting
  fileName : String
deriving DecidableEq, Repr

/-- The variables that are looked at, in order. -/
def sources : List Source :=
  [⟨"KAFKA_TRUSTED_CERT", .authority, "ca.pem"⟩, ⟨"KAFKA_CLIENT_CERT", .certificate, "client.crt"⟩,
   ⟨"KAFKA_CLIENT_CERT_KEY", .privateKey, "client.key"⟩]

/-- The mode of a file that only its owner may read and write. -/
def ownerOnly : Nat := 0o600

/-- The sources that the environment holds something for. -/
def present (env : Environment) : List (Source × String) :=
  sources.filterMap fun s =>
    match env.get? s.name with
    | some text => if text = "" then none else some (s, text)
    | none => none

/-- A text that ends with a line break. -/
def terminated (text : String) : String :=
  if text.toList.getLast? = some '\n' then text else text ++ "\n"

/-- Set one of the settings that name a file. -/
def setFile (c : Connection) (s : Setting) (path : String) : Connection :=
  match s with
  | .authority => { c with authority := .text path }
  | .certificate => { c with certificate := .text path }
  | .privateKey => { c with privateKey := .text path }
  | _ => c

/-- Use one source, unless its setting is given already. -/
def place (directory : String) (state : Connection × List WrittenFile) (item : Source × String) :
    Connection × List WrittenFile :=
  if (state.1.get item.1.setting).truthy then state
  else
    let path := Path.join directory item.1.fileName
    (setFile state.1 item.1.setting path, state.2 ++ [⟨path, terminated item.2, ownerOnly⟩])

/-- A connection in the clear becomes an encrypted one. -/
def encrypted (c : Connection) : Connection :=
  if c.protocol.same (.text "PLAINTEXT") then { c with protocol := .text "SSL" } else c

/-- The origin of the log record. -/
def origin : String := "kfc.consumer.kafka_config"

/-- The names of the variables in use, in order. -/
def variableNames (items : List (Source × String)) : List Value :=
  ((items.map fun i => i.1.name).mergeSort fun a b => a ≤ b).map Value.text

/-- The connection with the certificates of the environment, and the files that were written for it; none
    if the environment holds no certificates. -/
def materialize (c : Connection) (env : Environment) (directory : String) :
    Logged (Option (Connection × List WrittenFile)) := do
  let items := present env
  if items.isEmpty then return none
  let (placed, files) := items.foldl (place (Path.normalize directory)) (c, [])
  Logged.write Level.debug origin "Wrote TLS material from environment"
    [("variables", .list (variableNames items)), ("directory", .text (Path.normalize directory))]
  return some (encrypted placed, files)

end Certificates

end TopicReader
