import TopicReader.Proofs.Settings.ClientSettings
import TopicReader.Proofs.Settings.Furnishing

/-!
# `Proofs.Settings.Clients` — whether the cluster's clients are told alike

A run has two clients, one that reads records and one that asks for metadata. What they are told is put together apart:
for the consumer, all properties are laid over the usual settings; for the admin client, the properties are asked for
the name of the client alone; security is laid over both. Here the two are compared key by key. There is one key under
which they can differ, the timeout of a request: a property for it reaches the consumer only.

## Contents
- **Security.** `Connection.securityOf_of_validate`: of a valid connection only the certificates can be refused.
- **The admin client.** `Connection.adminBase`, `Connection.adminSettings_eq_ok_iff` and
  `Connection.adminSettings_get?`.
- **Common keys.** `Fields.Agree`, and `Connection.told_of_asked`: what both clients are told alike.
- **The law.** `Connection.clients_told`.
-/

namespace TopicReader

namespace Connection

/-! ## Security -/

/-- A connection that passes its check has one of the known protocols. -/
theorem exists_protocol_of_validate {c : Connection} (h : c.validate = .ok ()) :
    ∃ word ∈ securityProtocols, c.protocol = .text word := by
  unfold validate at h
  split at h
  · cases h
  split at h
  · cases h
  · rename_i hword
    have hany : isWord securityProtocols c.protocol = true := by
      simpa using hword
    obtain ⟨word, hmem, hsame⟩ := List.any_eq_true.mp hany
    exact ⟨word, hmem, Value.same_text_iff.mp hsame⟩

/-- What is told for the security of a valid connection is found, unless its certificates are refused. -/
theorem securityOf_of_validate {c : Connection} (hvalid : c.validate = .ok ()) (loader : TlsLoader) :
    (∃ f, loadTls loader c.tlsFiles = .error f ∧ securityOf loader c = .error f)
      ∨ ∃ security, securityOf loader c = .ok security := by
  obtain ⟨word, _, hprotocol⟩ := exists_protocol_of_validate hvalid
  rw [securityOf_eq]
  split
  · exact .inr ⟨[], rfl⟩
  · unfold secure
    rw [hprotocol]
    simp only [asksForTls, asksForLogin, ok_bind]
    cases Text.textOccursIn "SSL" word with
    | false => exact .inr ⟨_, rfl⟩
    | true =>
      show (∃ f, _ ∧ (loadTls loader c.tlsFiles >>= _) = _) ∨ ∃ security, (loadTls loader c.tlsFiles >>= _) = _
      cases loadTls loader c.tlsFiles with
      | error f => exact .inl ⟨f, rfl, rfl⟩
      | ok _ => exact .inr ⟨_, rfl⟩

/-- Where the certificates load, the consumer is told something. -/
theorem exists_consumerSettings {c : Connection} {loader : TlsLoader} (hvalid : c.validate = .ok ())
    (hloads : loader c.tlsFiles = .ok ()) (properties : Fields) :
    ∃ told, consumerSettings loader c properties = .ok told := by
  have hload : loadTls loader c.tlsFiles = .ok () := by
    unfold loadTls
    rw [hloads]
  rcases securityOf_of_validate hvalid loader with ⟨f, hrefused, _⟩ | ⟨security, hsecurity⟩
  · rw [hload] at hrefused
    cases hrefused
  · exact ⟨_, consumerSettings_eq_ok_iff.mpr ⟨security, hsecurity, rfl⟩⟩

/-! ## The admin client -/

/-- What the admin client is told before security. -/
def adminBase (c : Connection) (properties : Fields) : Fields :=
  [("bootstrap_servers", c.servers), ("client_id", (properties.get? "client_id").getD (.text usualClientId)),
   ("request_timeout_ms", .int c.requestTimeout)]

theorem adminSettings_eq_ok_iff {loader : TlsLoader} {c : Connection} {properties asked : Fields} :
    adminSettings loader c properties = .ok asked
      ↔ ∃ security, securityOf loader c = .ok security ∧ asked = (adminBase c properties).update security := by
  show (securityOf loader c).map (adminBase c properties).update = .ok asked ↔ _
  rw [map_eq_ok_iff]
  exact exists_congr fun security => and_congr_right fun _ => eq_comm

/-- **A key of what the admin client is told** that security does not set is as it is without security. -/
theorem adminSettings_get? {loader : TlsLoader} {c : Connection} {properties asked : Fields}
    (h : adminSettings loader c properties = .ok asked) {key : String} (hkey : key ∉ securityKeys) :
    asked.get? key = (adminBase c properties).get? key := by
  obtain ⟨security, hsecurity, rfl⟩ := adminSettings_eq_ok_iff.mp h
  rw [Fields.get?_update, last?_securityOf hsecurity hkey]
  rfl

end Connection

/-! ## Common keys -/

/-- **Agreement**: under every name that both have, they have the same. -/
def Fields.Agree (fs gs : Fields) : Prop := ∀ key v w, fs.get? key = some v → gs.get? key = some w → v = w

namespace Connection

variable {c : Connection} {properties : Fields}

/-- What the user sets for the servers is nothing: there is no such property. -/
theorem last?_bootstrap_servers (hsupported : ∀ key ∈ properties.names, Property.isSupported key = true) :
    properties.last? "bootstrap_servers" = none := by
  refine Fields.last?_of_notMem ?_
  intro hmem
  exact absurd (hsupported _ hmem) (by decide)

/-- What the admin client is told before security, the consumer is told as well, but for the timeout. -/
theorem consumer_of_adminBase (hsupported : ∀ key ∈ properties.names, Property.isSupported key = true)
    (hnames : properties.names.Nodup) {key : String} (hkey : key ≠ "request_timeout_ms") {v : Value}
    (h : (adminBase c properties).get? key = some v) :
    ((baseSettings c properties).update properties).get? key = some v := by
  rw [Fields.get?_update]
  unfold adminBase at h
  rw [Fields.get?_cons] at h
  split at h
  · rename_i hservers
    obtain rfl : "bootstrap_servers" = key := hservers
    rw [last?_bootstrap_servers hsupported]
    exact h
  rw [Fields.get?_cons] at h
  split at h
  · rename_i hclient
    obtain rfl : "client_id" = key := hclient
    rw [Fields.last?_eq_get? hnames, ← h]
    cases properties.get? "client_id" <;> rfl
  rw [Fields.get?_cons, if_neg (Ne.symm hkey)] at h
  cases h

variable {loader : TlsLoader} {told asked : Fields}

/-- What the admin client is told, the consumer is told as well, but for the timeout. -/
theorem told_of_asked (htold : consumerSettings loader c properties = .ok told)
    (hasked : adminSettings loader c properties = .ok asked)
    (hsupported : ∀ key ∈ properties.names, Property.isSupported key = true) (hnames : properties.names.Nodup)
    {key : String} (hkey : key ≠ "request_timeout_ms") {v : Value} (h : asked.get? key = some v) :
    told.get? key = some v := by
  obtain ⟨security, hsecurity, rfl⟩ := consumerSettings_eq_ok_iff.mp htold
  obtain ⟨same, hsame, rfl⟩ := adminSettings_eq_ok_iff.mp hasked
  obtain rfl : security = same := Except.ok.inj (hsecurity.symm.trans hsame)
  rw [Fields.get?_update] at h ⊢
  cases hlast : security.last? key with
  | some w =>
    rw [hlast] at h
    exact h
  | none =>
    rw [hlast, Option.none_or] at h
    rw [Option.none_or]
    exact consumer_of_adminBase hsupported hnames hkey h

theorem timeout_notMem_securityKeys : "request_timeout_ms" ∉ securityKeys := by decide

/-- The consumer has the timeout of the properties, if they have one. -/
theorem consumerSettings_timeout (htold : consumerSettings loader c properties = .ok told)
    (hnames : properties.names.Nodup) :
    told.get? "request_timeout_ms" = some ((properties.get? "request_timeout_ms").getD (.int c.requestTimeout)) := by
  rw [consumerSettings_get? htold timeout_notMem_securityKeys, Fields.last?_eq_get? hnames]
  cases properties.get? "request_timeout_ms" <;> rfl

/-- The admin client has the timeout of the connection. -/
theorem adminSettings_timeout (hasked : adminSettings loader c properties = .ok asked) :
    asked.get? "request_timeout_ms" = some (.int c.requestTimeout) :=
  adminSettings_get? hasked timeout_notMem_securityKeys

/-! ## The law -/

/-- **The clients are told alike but for the timeout of a request.** Of a valid connection with supported properties,
    either the certificates are refused, for both clients alike, or both are told something. Every key of the admin
    client is one of the consumer's then, with the same value unless it is the timeout: this is the one of the
    properties, if they have one, for the consumer, and the one of the connection for the admin client. So the two agree
    exactly if the properties set no other timeout than the connection. -/
theorem clients_told (loader : TlsLoader) (hvalid : c.validate = .ok ())
    (hsupported : ∀ key ∈ properties.names, Property.isSupported key = true) (hnames : properties.names.Nodup) :
    (∃ f, loadTls loader c.tlsFiles = .error f ∧ consumerSettings loader c properties = .error f
        ∧ adminSettings loader c properties = .error f)
      ∨ ∃ told asked, consumerSettings loader c properties = .ok told ∧ adminSettings loader c properties = .ok asked
          ∧ (∀ key v, asked.get? key = some v → key ≠ "request_timeout_ms" → told.get? key = some v)
          ∧ told.get? "request_timeout_ms"
              = some ((properties.get? "request_timeout_ms").getD (.int c.requestTimeout))
          ∧ asked.get? "request_timeout_ms" = some (.int c.requestTimeout)
          ∧ (told.Agree asked ↔ ∀ v, properties.get? "request_timeout_ms" = some v → v = .int c.requestTimeout) := by
  rcases securityOf_of_validate hvalid loader with ⟨f, hrefused, hsecurity⟩ | ⟨security, hsecurity⟩
  · exact .inl ⟨f, hrefused, map_eq_error_iff.mpr hsecurity, map_eq_error_iff.mpr hsecurity⟩
  obtain ⟨told, htold⟩ : ∃ told, consumerSettings loader c properties = .ok told :=
    ⟨_, consumerSettings_eq_ok_iff.mpr ⟨security, hsecurity, rfl⟩⟩
  obtain ⟨asked, hasked⟩ : ∃ asked, adminSettings loader c properties = .ok asked :=
    ⟨_, adminSettings_eq_ok_iff.mpr ⟨security, hsecurity, rfl⟩⟩
  have hothers : ∀ key v, asked.get? key = some v → key ≠ "request_timeout_ms" → told.get? key = some v :=
    fun key v hv hkey => told_of_asked htold hasked hsupported hnames hkey hv
  have htoldTimeout := consumerSettings_timeout htold hnames
  have haskedTimeout := adminSettings_timeout hasked
  refine .inr ⟨told, asked, htold, hasked, hothers, htoldTimeout, haskedTimeout, ?_⟩
  constructor
  · intro hagree v hv
    rw [hv] at htoldTimeout
    exact hagree _ _ _ htoldTimeout haskedTimeout
  · intro hsame key v w hv hw
    have htell : told.get? key = some w := by
      by_cases hkey : key = "request_timeout_ms"
      · subst hkey
        cases haskedTimeout.symm.trans hw
        rw [htoldTimeout]
        cases hset : properties.get? "request_timeout_ms" with
        | none => rfl
        | some u =>
          rw [hsame u hset]
          rfl
      · exact hothers key w hw hkey
    exact Option.some.inj (hv.symm.trans htell)

/-- Over an encrypted connection with a login, a name for the client and a wait that the admin client knows nothing of
    leave the two in agreement. -/
theorem clients_told_of_name :
    let c : Connection := { usual with protocol := .text "SASL_SSL", username := .text "reader" }
    let properties : Fields := [("client_id", .text "shell"), ("fetch_max_wait_ms", .int 50)]
    c.validate = .ok ()
      ∧ (∀ key ∈ properties.names, Property.isSupported key = true) ∧ properties.names.Nodup
      ∧ ∃ told asked, consumerSettings (fun _ => .ok ()) c properties = .ok told
          ∧ adminSettings (fun _ => .ok ()) c properties = .ok asked ∧ told.Agree asked
          ∧ asked.get? "client_id" = some (.text "shell") ∧ told.get? "client_id" = some (.text "shell") := by
  intro c properties
  have hvalid : c.validate = .ok () := by rfl
  have hsupported : ∀ key ∈ properties.names, Property.isSupported key = true := by decide
  have hnames : properties.names.Nodup := by decide
  refine ⟨hvalid, hsupported, hnames, ?_⟩
  rcases clients_told (fun _ => .ok ()) hvalid hsupported hnames with
    ⟨f, hrefused, _⟩ | ⟨told, asked, htold, hasked, hothers, _, _, hagree⟩
  · cases hrefused
  · have hname : asked.get? "client_id" = some (.text "shell") := adminSettings_get? hasked (by decide)
    refine ⟨told, asked, htold, hasked, hagree.mpr ?_, hname, hothers _ _ hname (by decide)⟩
    intro v hv
    cases hv

/-- A property for the timeout reaches the consumer only: the admin client keeps the one of the connection. -/
theorem clients_disagree_on_timeout :
    let properties : Fields := [("request_timeout_ms", .int 1000)]
    usual.validate = .ok ()
      ∧ (∀ key ∈ properties.names, Property.isSupported key = true) ∧ properties.names.Nodup
      ∧ ∃ told asked, consumerSettings (fun _ => .ok ()) usual properties = .ok told
          ∧ adminSettings (fun _ => .ok ()) usual properties = .ok asked
          ∧ told.get? "request_timeout_ms" = some (.int 1000) ∧ asked.get? "request_timeout_ms" = some (.int 40000)
          ∧ ¬ told.Agree asked := by
  intro properties
  refine ⟨rfl, by decide, by decide, _, _, rfl, rfl, rfl, rfl, ?_⟩
  intro hagree
  cases hagree "request_timeout_ms" (.int 1000) (.int 40000) rfl rfl

end Connection

end TopicReader
