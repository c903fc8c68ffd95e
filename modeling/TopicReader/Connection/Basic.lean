import TopicReader.Connection.Servers
import TopicReader.Environment
import TopicReader.Value.Convert

/-!
# `Connection` — how to reach the cluster

## Contents
- **Settings.** `Setting`: one constructor a setting, with its name; two of them are integers.
- **The connection.** `Connection`, `Connection.usual`, and `get` and `set` by setting.
- **From the environment.** `Connection.ofEnvironment`: a server list of its own wins over an address list.
- **From a file.** `Connection.merged`: what a mapping names replaces what was there.
- **Checking.** `Connection.validate`.

A refusal shows the values that it is about. Where an integer in them is too long to be written out, that is what
fails instead.
-/

namespace TopicReader

open TopicReader.Text

/-- A setting of a connection. -/
inductive Setting where
  | servers
  | protocol
  | mechanism
  | username
  | password
  | authority
  | certificate
  | privateKey
  | requestTimeout
  | metadataTimeout
deriving DecidableEq, Repr, Inhabited

namespace Setting

/-- The settings, in order. -/
def all : List Setting :=
  [servers, protocol, mechanism, username, password, authority, certificate, privateKey,
   requestTimeout, metadataTimeout]

/-- The name of a setting in files and messages. -/
def name : Setting → String
  | servers => "bootstrap_servers"
  | protocol => "security_protocol"
  | mechanism => "sasl_mechanism"
  | username => "sasl_plain_username"
  | password => "sasl_plain_password"
  | authority => "ssl_cafile"
  | certificate => "ssl_certfile"
  | privateKey => "ssl_keyfile"
  | requestTimeout => "request_timeout_ms"
  | metadataTimeout => "metadata_timeout_ms"

/-- Is it a number of milliseconds? -/
def isTimeout : Setting → Bool
  | requestTimeout | metadataTimeout => true
  | _ => false

end Setting

/-- How to reach the cluster. Files may give values of any kind; only the timeouts are always integers. -/
structure Connection where
  servers : Value
  protocol : Value
  mechanism : Value
  username : Value
  password : Value
  authority : Value
  certificate : Value
  privateKey : Value
  requestTimeout : Int
  metadataTimeout : Int
deriving Repr, Inhabited

namespace Connection

/-- The server that is used where none is named. -/
def usualServers : String := "localhost:9092"

/-- The connection where nothing is set. -/
def usual : Connection :=
  { servers := .text usualServers, protocol := .text "PLAINTEXT", mechanism := .text "PLAIN",
    username := .text "", password := .text "", authority := .text "", certificate := .text "",
    privateKey := .text "", requestTimeout := 40000, metadataTimeout := 5000 }

/-- The value of a setting. -/
def get (c : Connection) : Setting → Value
  | .servers => c.servers
  | .protocol => c.protocol
  | .mechanism => c.mechanism
  | .username => c.username
  | .password => c.password
  | .authority => c.authority
  | .certificate => c.certificate
  | .privateKey => c.privateKey
  | .requestTimeout => .int c.requestTimeout
  | .metadataTimeout => .int c.metadataTimeout

/-- The timeout that a value stands for; values that stand for no integer are refused by name. -/
def timeoutOf (s : Setting) (v : Value) : Except Failure Int :=
  match v.toInt with
  | .ok n => .ok n
  | .error f =>
    match f with
    | .mishap .wrongValue _ | .mishap .wrongKind _ =>
      .error (if v.holdsLong then Value.tooLong
        else .caused (.misconfigured (.timeoutNotInteger s.name v)) f)
    | f => .error f

/-- Set a setting. -/
def set (c : Connection) (s : Setting) (v : Value) : Except Failure Connection :=
  match s with
  | .servers => .ok { c with servers := v }
  | .protocol => .ok { c with protocol := v }
  | .mechanism => .ok { c with mechanism := v }
  | .username => .ok { c with username := v }
  | .password => .ok { c with password := v }
  | .authority => .ok { c with authority := v }
  | .certificate => .ok { c with certificate := v }
  | .privateKey => .ok { c with privateKey := v }
  | .requestTimeout => (timeoutOf s v).map fun n => { c with requestTimeout := n }
  | .metadataTimeout => (timeoutOf s v).map fun n => { c with metadataTimeout := n }

/-- The settings with their values, in order. -/
def fields (c : Connection) : Fields := Setting.all.map fun s => (s.name, c.get s)

/-! ## From the environment -/

/-- The first text, unless it is empty. -/
def orElse (s other : String) : String := if s = "" then other else s

/-- The connection that the environment describes. -/
def ofEnvironment (env : Environment) : Connection :=
  let named := env.getOr "KAFKA_BOOTSTRAP_SERVERS" ""
  let protocol := env.getOr "KAFKA_SECURITY_PROTOCOL" ""
  let url := env.getOr "KAFKA_URL" ""
  let derived := if named = "" ∧ url ≠ "" then serversOf url else (named, false)
  let implied := if derived.2 then "SSL" else "PLAINTEXT"
  { usual with
    servers := .text (orElse derived.1 usualServers)
    protocol := .text (orElse protocol implied)
    mechanism := .text (env.getOr "KAFKA_SASL_MECHANISM" "PLAIN")
    username := .text (env.getOr "KAFKA_SASL_USERNAME" "")
    password := .text (env.getOr "KAFKA_SASL_PASSWORD" "") }

/-! ## From a file -/

/-- Does a key name a setting? -/
def isKnown (key : Value) : Bool := Setting.all.any fun s => key.same (.text s.name)

/-- Set what a mapping names, setting by setting. -/
def setAll (data : Mapping) : List Setting → Connection → Except Failure Connection
  | [], c => .ok c
  | s :: rest, c =>
    match data.getText? s.name with
    | none => setAll data rest c
    | some v => do setAll data rest (← c.set s v)

/-- The connection with what a mapping names; a key that names no setting is refused. -/
def merged (c : Connection) (data : Mapping) : Except Failure Connection := do
  let unknown ← sortValues (data.keys.filter fun k => !isKnown k)
  if unknown.isEmpty then setAll data Setting.all c
  else .error (.refusing (.unknownConnectionSettings unknown))

/-! ## Checking -/

/-- Is a value one of some words? -/
def isWord (words : List String) (v : Value) : Bool := words.any fun w => v.same (.text w)

/-- Is a value a text that starts like this? -/
def startsWith (start : String) : Value → Bool
  | .text s => start.toList.isPrefixOf s.toList
  | _ => false

/-- A failure of a check. -/
def refuse (m : Misconfiguration) : Except Failure Unit := .error (.refusing m)

/-- Check that a connection can be tried. -/
def validate (c : Connection) : Except Failure Unit :=
  if !c.servers.truthy then refuse .serversMissing
  else if !isWord securityProtocols c.protocol then refuse (.unknownProtocol c.protocol)
  else if startsWith "SASL" c.protocol && !isWord saslMechanisms c.mechanism then
    refuse (.unknownMechanism c.mechanism)
  else if c.metadataTimeout ≤ 0 then refuse (.metadataTimeoutNotPositive c.metadataTimeout)
  else .ok ()

end Connection

end TopicReader
