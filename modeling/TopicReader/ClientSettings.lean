import TopicReader.Connection.Basic

/-!
# `ClientSettings` — what the cluster's clients are told

## Contents
- **Certificates.** `TlsFiles`: the files that an encrypted connection loads.
- **Security.** `securityOf`: the settings for the protocol, given what loading the certificates comes to.
- **Consumer and admin.** `consumerSettings` and `adminSettings`.
-/

namespace TopicReader

/-- The files that an encrypted connection loads, null where none is named. -/
structure TlsFiles where
  authority : Value
  certificate : Value
  privateKey : Value
deriving Repr, Inhabited

/-- Loads certificates, or fails. -/
abbrev TlsLoader := TlsFiles → Except Failure Unit

namespace Connection

/-- Loaded certificates, as a value. -/
def loadedTls : Value := .foreign "<ssl>" "<ssl>"

/-- The name of the client where none is set. -/
def usualClientId : String := "kfc"

/-- A value that counts, or null. -/
def orNull (v : Value) : Value := if v.truthy then v else .null

/-- The files of a connection. -/
def tlsFiles (c : Connection) : TlsFiles :=
  ⟨orNull c.authority, orNull c.certificate, orNull c.privateKey⟩

/-- Does a protocol ask for encryption? -/
def asksForTls (protocol : Value) : Except Failure Bool :=
  match protocol with
  | .text s => .ok (Text.textOccursIn "SSL" s)
  | .list xs => .ok (xs.any fun x => x.same (.text "SSL"))
  | .tuple xs => .ok (xs.any fun x => x.same (.text "SSL"))
  | .set _ xs => .ok (xs.any fun x => x.same (.text "SSL"))
  | .map es => .ok (Mapping.hasKey es (.text "SSL"))
  | v => .error (.mishap .wrongKind ("argument of type '" ++ v.kindWord ++ "' is not iterable"))

/-- Does a protocol ask for a login? -/
def asksForLogin (protocol : Value) : Except Failure Bool :=
  match protocol with
  | .text s => .ok (startsWith "SASL" (.text s))
  | v =>
    .error (.mishap .noSuchMember ("'" ++ v.kindWord ++ "' object has no attribute 'startswith'"))

/-- The certificates that setting up a connection loads, if it comes to that. -/
def tlsRequest? (c : Connection) : Option TlsFiles :=
  if c.protocol.same (.text "PLAINTEXT") then none
  else
    match asksForTls c.protocol with
    | .ok true => some c.tlsFiles
    | _ => none

/-- What loading certificates comes to: failures of the system and refused values are problems with the
    settings. -/
def loadTls (loader : TlsLoader) (files : TlsFiles) : Except Failure Unit :=
  match loader files with
  | .ok () => .ok ()
  | .error f =>
    if f.isSystem || f.isValue then .error (.caused (.misconfigured .certificates) f) else .error f

/-- The settings for the protocol of a connection. -/
def securityOf (loader : TlsLoader) (c : Connection) : Except Failure Fields :=
  if c.protocol.same (.text "PLAINTEXT") then .ok []
  else do
    let tls ←
      if ← asksForTls c.protocol then do
        loadTls loader c.tlsFiles
        pure [("ssl_context", loadedTls)]
      else pure []
    let login :=
      if ← asksForLogin c.protocol then
        [("sasl_mechanism", c.mechanism), ("sasl_plain_username", c.username),
         ("sasl_plain_password", c.password)]
      else []
    return [("security_protocol", c.protocol)] ++ tls ++ login

/-- The consumer's settings where the user sets nothing. -/
def baseSettings (c : Connection) (properties : Fields) : Fields :=
  let group := (properties.get? "group_id").getD .null
  [("bootstrap_servers", c.servers), ("client_id", .text usualClientId), ("group_id", group),
   ("request_timeout_ms", .int c.requestTimeout), ("enable_auto_commit", .bool (!group.isNull)),
   ("auto_offset_reset", .text "latest")]

/-- What the consumer is told: the user's properties win over the usual values, security over both. -/
def consumerSettings (loader : TlsLoader) (c : Connection) (properties : Fields) :
    Except Failure Fields :=
  (securityOf loader c).map fun security =>
    ((baseSettings c properties).update properties).update security

/-- What the admin client is told. -/
def adminSettings (loader : TlsLoader) (c : Connection) (properties : Fields) :
    Except Failure Fields :=
  let own : Fields :=
    [("bootstrap_servers", c.servers),
     ("client_id", (properties.get? "client_id").getD (.text usualClientId)),
     ("request_timeout_ms", .int c.requestTimeout)]
  (securityOf loader c).map fun security => own.update security

end Connection

end TopicReader
