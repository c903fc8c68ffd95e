import TopicReader.ClientSettings
import TopicReader.Proofs.Fields
import TopicReader.Proofs.Settings.Loading

/-!
# `Proofs.Settings.ClientSettings` — what the cluster's clients are told, key by key

The consumer is told what it is told by default, then what the user set, then what the protocol of the connection asks
for, and the later wins. The three parts are found by computations of their own; here they are put side by side, so
that a key of what is told can be looked up in them.

## Contents
- **Security.** `Connection.securityFields` and `Connection.securityOf_eq`: what the protocol asks for.
- **The consumer.** `Connection.consumerSettings_eq_ok_iff` and `Connection.consumerSettings_get?`.
-/

namespace TopicReader

namespace Connection

/-! ## Security -/

/-- What is told for a connection that is not in the clear. -/
def securityFields (c : Connection) (tls login : Bool) : Fields :=
  ("security_protocol", c.protocol) ::
    ((if tls then [("ssl_context", loadedTls)] else []) ++
      if login then
        [("sasl_mechanism", c.mechanism), ("sasl_plain_username", c.username), ("sasl_plain_password", c.password)]
      else [])

/-- Certificates are loaded only where the protocol asks for encryption. -/
def loadIf (loader : TlsLoader) (files : TlsFiles) (tls : Bool) : Except Failure Unit :=
  if tls then loadTls loader files else .ok ()

/-- The steps to what is told for a connection that is not in the clear. -/
def secure (loader : TlsLoader) (c : Connection) : Except Failure Fields :=
  asksForTls c.protocol >>= fun tls => loadIf loader c.tlsFiles tls >>= fun _ =>
    asksForLogin c.protocol >>= fun login => .ok (c.securityFields tls login)

theorem securityOf_eq (loader : TlsLoader) (c : Connection) :
    securityOf loader c = if c.protocol.same (.text "PLAINTEXT") then .ok [] else secure loader c := by
  unfold securityOf secure
  by_cases hplain : c.protocol.same (.text "PLAINTEXT") = true
  · rw [if_pos hplain, if_pos hplain]
  · rw [if_neg hplain, if_neg hplain]
    cases asksForTls c.protocol with
    | error f => rfl
    | ok tls =>
      cases tls with
      | false => rfl
      | true =>
        show (loadTls loader c.tlsFiles >>= _) = (loadTls loader c.tlsFiles >>= _)
        cases loadTls loader c.tlsFiles <;> rfl

/-- What is told for security is nothing, or it starts with the protocol. -/
theorem securityOf_cases {loader : TlsLoader} {c : Connection} {fs : Fields} (h : securityOf loader c = .ok fs) :
    fs = [] ∨ ∃ tls login, fs = c.securityFields tls login := by
  rw [securityOf_eq] at h
  split at h
  · cases h
    exact .inl rfl
  · obtain ⟨tls, _, h⟩ := bind_eq_ok_iff.mp h
    obtain ⟨_, _, h⟩ := bind_eq_ok_iff.mp h
    obtain ⟨login, _, h⟩ := bind_eq_ok_iff.mp h
    cases h
    exact .inr ⟨tls, login, rfl⟩

/-- The keys that security may set. -/
def securityKeys : List String :=
  ["security_protocol", "ssl_context", "sasl_mechanism", "sasl_plain_username", "sasl_plain_password"]

theorem securityFields_names (c : Connection) (tls login : Bool) :
    ∀ key ∈ (c.securityFields tls login).names, key ∈ securityKeys := by
  cases tls <;> cases login <;> simp [securityFields, Fields.names, securityKeys]

theorem last?_securityOf {loader : TlsLoader} {c : Connection} {fs : Fields} (h : securityOf loader c = .ok fs)
    {key : String} (hkey : key ∉ securityKeys) : fs.last? key = none := by
  rcases securityOf_cases h with rfl | ⟨tls, login, rfl⟩
  · rfl
  · exact Fields.last?_of_notMem fun hmem => hkey (securityFields_names c tls login key hmem)

/-! ## The consumer -/

theorem consumerSettings_eq_ok_iff {loader : TlsLoader} {c : Connection} {properties told : Fields} :
    consumerSettings loader c properties = .ok told
      ↔ ∃ security, securityOf loader c = .ok security
          ∧ told = ((baseSettings c properties).update properties).update security := by
  unfold consumerSettings
  rw [map_eq_ok_iff]
  exact exists_congr fun security => and_congr_right fun _ => eq_comm

/-- **A key of what the consumer is told** that security does not set is as the user set it last, else as usual. -/
theorem consumerSettings_get? {loader : TlsLoader} {c : Connection} {properties told : Fields}
    (h : consumerSettings loader c properties = .ok told) {key : String} (hkey : key ∉ securityKeys) :
    told.get? key = (properties.last? key).or ((baseSettings c properties).get? key) := by
  obtain ⟨security, hsecurity, rfl⟩ := consumerSettings_eq_ok_iff.mp h
  rw [Fields.get?_update, Fields.get?_update, last?_securityOf hsecurity hkey]
  rfl

end Connection

end TopicReader
