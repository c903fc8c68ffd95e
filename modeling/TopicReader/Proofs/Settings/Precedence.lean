import TopicReader.Proofs.Settings.Furnishing
import TopicReader.Proofs.Settings.Properties
import TopicReader.Proofs.Settings.Protocol

/-!
# `Proofs.Settings.Precedence` — where each setting of a connection comes from

The command line, the file, the environment and what is usual may each say how to reach the cluster. They are applied
one after the other by different parts of the program. Here every setting is given by itself: by the list of those who
may say it, of whom the first one that does is followed.

## Contents
- **Addresses.** `Connection.SchemeOf`, and `Connection.asksForTls_iff`: when an address list asks for encryption.
- **Sources.** `Connection.sources` and `Connection.chosen`.
- **Layers.** `Connection.ofEnvironment_get`, `Arguments.withBrokers_get`.
- **The law.** `Arguments.settings_layered`.
-/

namespace TopicReader

open TopicReader.Text

/-! ## Addresses -/

/-- Cutting at a mark gives what stands before and after its first occurrence. -/
theorem Text.cutAt_eq_some_iff {mark : List Char} (hmark : mark ≠ []) {cs before after : List Char} :
    cutAt mark cs = some (before, after)
      ↔ cs = before ++ mark ++ after ∧ ∀ xs ys, cs = xs ++ mark ++ ys → before.length ≤ xs.length := by
  induction cs generalizing before with
  | nil =>
    have hempty : mark.isEmpty = false := eq_false_of_ne_true fun h => hmark (List.isEmpty_iff.mp h)
    simp [cutAt, hempty, hmark]
  | cons c rest ih =>
    unfold cutAt
    by_cases hfirst : mark <+: c :: rest
    · rw [if_pos (List.isPrefixOf_iff_prefix.mpr hfirst)]
      obtain ⟨behind, hbehind⟩ := hfirst
      rw [← hbehind, List.drop_left]
      constructor
      · intro h
        cases h
        exact ⟨rfl, fun xs _ _ => Nat.zero_le _⟩
      · rintro ⟨hcut, hleast⟩
        have hbefore : before = [] := List.length_eq_zero_iff.mp (Nat.le_zero.mp (hleast [] behind rfl))
        subst hbefore
        rw [List.append_cancel_left hcut]
    · rw [if_neg fun h => hfirst (List.isPrefixOf_iff_prefix.mp h)]
      have hcons {xs ys : List Char} (h : c :: rest = xs ++ mark ++ ys) :
          ∃ zs, xs = c :: zs ∧ rest = zs ++ mark ++ ys := by
        cases xs with
        | nil => exact absurd ⟨ys, h.symm⟩ hfirst
        | cons d zs =>
          obtain ⟨rfl, hrest⟩ := List.cons.inj h
          exact ⟨zs, rfl, hrest⟩
      constructor
      · intro h
        obtain ⟨⟨xs, ys⟩, hcut, heq⟩ := Option.map_eq_some_iff.mp h
        cases heq
        obtain ⟨hrest, hleast⟩ := ih.mp hcut
        refine ⟨by rw [hrest]; rfl, fun us vs hsplit => ?_⟩
        obtain ⟨zs, rfl, hzs⟩ := hcons hsplit
        exact Nat.succ_le_succ (hleast zs vs hzs)
      · rintro ⟨hcut, hleast⟩
        obtain ⟨zs, rfl, hzs⟩ := hcons hcut
        have hrest : cutAt mark rest = some (zs, after) :=
          ih.mpr ⟨hzs, fun xs ys hsplit => Nat.le_of_succ_le_succ (hleast (c :: xs) ys (by rw [hsplit]; rfl))⟩
        rw [hrest]
        rfl

namespace Connection

/-- **The scheme of an item** is what stands before the first scheme mark in it. -/
def SchemeOf (item scheme : List Char) : Prop :=
  ∃ rest, item = scheme ++ schemeMark ++ rest ∧ ∀ xs ys, item = xs ++ schemeMark ++ ys → scheme.length ≤ xs.length

/-- **An address list asks for encryption** if the scheme of an item in it ends in `ssl`. -/
def AsksForTls (url : String) : Prop := ∃ item ∈ items url, ∃ scheme, SchemeOf item scheme ∧ "ssl".toList <:+ scheme

theorem encrypted_ofItem_iff (item : List Char) :
    (Address.ofItem item).encrypted = true ↔ ∃ scheme, SchemeOf item scheme ∧ "ssl".toList <:+ scheme := by
  have hscheme (scheme : List Char) : SchemeOf item scheme ↔ ∃ rest, cutAt schemeMark item = some (scheme, rest) :=
    exists_congr fun rest => (cutAt_eq_some_iff (by decide)).symm
  simp only [hscheme]
  unfold Address.ofItem Address.encrypted
  cases cutAt schemeMark item with
  | none => simp
  | some cut =>
    obtain ⟨before, after⟩ := cut
    simp [List.isSuffixOf_iff_suffix]

theorem asksForTls_iff (url : String) : (serversOf url).2 = true ↔ AsksForTls url := by
  unfold serversOf AsksForTls
  simp only [List.any_map, List.any_eq_true, Function.comp_apply, encrypted_ofItem_iff]

instance (url : String) : Decidable (AsksForTls url) := decidable_of_iff _ (asksForTls_iff url)

/-! ## Sources -/

/-- A text that says something. -/
def filled (s : String) : Option Value := if s = "" then none else some (.text s)

/-- What the file says of a setting. -/
def named (data : Mapping) (s : Setting) : Option Value := (data.getText? s.name).map s.settled

/-- What a variable of the environment says, even if that is an empty text. -/
def bound (env : Environment) (name : String) : Option Value := (env.get? name).map Value.text

/-- The protocol that the address list of the environment implies; servers that are named win over it. -/
def impliedProtocol (env : Environment) : Option Value :=
  if env.getOr "KAFKA_BOOTSTRAP_SERVERS" "" = "" ∧ AsksForTls (env.getOr "KAFKA_URL" "") then some (.text "SSL")
  else none

/-- What the environment may say of a setting, from what is followed first to what is followed last. -/
def bindings (env : Environment) : Setting → List (Option Value)
  | .servers =>
    [filled (env.getOr "KAFKA_BOOTSTRAP_SERVERS" ""), filled (serversOf (env.getOr "KAFKA_URL" "")).1]
  | .protocol => [filled (env.getOr "KAFKA_SECURITY_PROTOCOL" ""), impliedProtocol env]
  | .mechanism => [bound env "KAFKA_SASL_MECHANISM"]
  | .username => [bound env "KAFKA_SASL_USERNAME"]
  | .password => [bound env "KAFKA_SASL_PASSWORD"]
  | _ => []

/-- What the command line may say of a setting. -/
def ordered (brokers : Option String) : Setting → List (Option Value)
  | .servers => [filled (brokers.getD "")]
  | _ => []

/-- **Who may say a setting**: the command line before the file, the file before the environment. -/
def sources (brokers : Option String) (data : Mapping) (env : Environment) (s : Setting) : List (Option Value) :=
  ordered brokers s ++ [named data s] ++ bindings env s

/-- The first of some sources that says something is followed; else it is as usual. -/
def firstOf (said : List (Option Value)) (s : Setting) : Value := (said.findSome? id).getD (usual.get s)

/-! ## Layers -/

theorem getD_filled (s other : String) : (filled s).getD (.text other) = .text (orElse s other) := by
  unfold filled orElse
  by_cases h : s = "" <;> simp [h]

/-- An address list that names nothing is as good as none. -/
theorem ofEnvironment_servers (env : Environment) :
    (ofEnvironment env).servers = firstOf (bindings env .servers) .servers := by
  have hfirst : firstOf (bindings env .servers) .servers
      = (filled (env.getOr "KAFKA_BOOTSTRAP_SERVERS" "")).getD
          ((filled (serversOf (env.getOr "KAFKA_URL" "")).1).getD (.text usualServers)) := by
    unfold firstOf bindings
    cases filled (env.getOr "KAFKA_BOOTSTRAP_SERVERS" "") <;>
      cases filled (serversOf (env.getOr "KAFKA_URL" "")).1 <;> rfl
  rw [hfirst, getD_filled, getD_filled]
  unfold ofEnvironment
  by_cases hnamed : env.getOr "KAFKA_BOOTSTRAP_SERVERS" "" = ""
  · by_cases hurl : env.getOr "KAFKA_URL" "" = ""
    · have hnothing : (serversOf "").1 = "" := rfl
      simp [orElse, hnamed, hurl, hnothing]
    · simp [orElse, hnamed, hurl]
  · simp [orElse, hnamed]

theorem ofEnvironment_protocol_eq (env : Environment) :
    (ofEnvironment env).protocol = firstOf (bindings env .protocol) .protocol := by
  rw [ofEnvironment_protocol]
  have hdecided : impliesTls env = true
      ↔ env.getOr "KAFKA_SECURITY_PROTOCOL" "" = ""
        ∧ env.getOr "KAFKA_BOOTSTRAP_SERVERS" "" = "" ∧ AsksForTls (env.getOr "KAFKA_URL" "") := by
    unfold impliesTls
    simp only [Bool.and_eq_true, decide_eq_true_eq, asksForTls_iff, and_assoc]
  unfold firstOf bindings impliedProtocol filled plainProtocol orElse
  by_cases hprotocol : env.getOr "KAFKA_SECURITY_PROTOCOL" "" = ""
  · by_cases htls : env.getOr "KAFKA_BOOTSTRAP_SERVERS" "" = "" ∧ AsksForTls (env.getOr "KAFKA_URL" "")
    · rw [if_pos (hdecided.mpr ⟨hprotocol, htls⟩), if_pos hprotocol, if_pos htls]
      rfl
    · rw [if_neg fun h => htls (hdecided.mp h).2, if_pos hprotocol, if_pos hprotocol, if_neg htls]
      rfl
  · rw [if_neg fun h => hprotocol (hdecided.mp h).1, if_neg hprotocol, if_neg hprotocol]
    rfl

/-- **The environment** says every setting by its variables. -/
theorem ofEnvironment_get (env : Environment) (s : Setting) :
    (ofEnvironment env).get s = firstOf (bindings env s) s := by
  have hbound (name : String) (usually : String) :
      Value.text (env.getOr name usually) = ([bound env name].findSome? id).getD (.text usually) := by
    unfold Environment.getOr bound
    cases env.get? name <;> rfl
  cases s with
  | servers => exact ofEnvironment_servers env
  | protocol => exact ofEnvironment_protocol_eq env
  | mechanism => exact hbound "KAFKA_SASL_MECHANISM" "PLAIN"
  | username => exact hbound "KAFKA_SASL_USERNAME" ""
  | password => exact hbound "KAFKA_SASL_PASSWORD" ""
  | _ => rfl

/-- A source in front of others is followed if it says something. -/
theorem firstOf_cons (said : Option Value) (others : List (Option Value)) (s : Setting) :
    firstOf (said :: others) s = said.getD (firstOf others s) := by
  unfold firstOf
  cases said <;> rfl

end Connection

namespace Arguments

/-- Servers of the command line replace those of a connection, and nothing else. -/
theorem withBrokers_get (a : Arguments) (c : Connection) (s : Setting) :
    (a.withBrokers c).get s = ((Connection.ordered a.brokers s).findSome? id).getD (c.get s) := by
  cases hbrokers : a.brokers with
  | none =>
    have hsame : a.withBrokers c = c := by
      unfold withBrokers
      rw [hbrokers]
    rw [hsame]
    cases s <;> rfl
  | some servers =>
    by_cases hempty : servers = ""
    · have hsame : a.withBrokers c = c := by
        unfold withBrokers
        rw [hbrokers]
        exact if_pos hempty
      rw [hsame, hempty]
      cases s <;> rfl
    · have hchanged : a.withBrokers c = { c with servers := .text servers } := by
        unfold withBrokers
        rw [hbrokers]
        exact if_neg hempty
      have hfilled : Connection.filled servers = some (.text servers) := if_neg hempty
      rw [hchanged]
      cases s with
      | servers =>
        show Value.text servers = ([Connection.filled servers].findSome? id).getD c.servers
        rw [hfilled]
        rfl
      | _ => rfl

/-- The layers of a connection before certificates, one setting at a time. -/
theorem withBrokers_merged_get {a : Arguments} {env : Environment} {data : Mapping} {merged : Connection}
    (h : (Connection.ofEnvironment env).merged data = .ok merged) (s : Setting) :
    (a.withBrokers merged).get s = Connection.firstOf (Connection.sources a.brokers data env s) s := by
  have hmerged : merged.get s
      = (Connection.named data s).getD (Connection.firstOf (Connection.bindings env s) s) := by
    rw [Connection.merged_get h, Connection.given, Connection.ofEnvironment_get]
    rfl
  rw [withBrokers_get, hmerged, ← Connection.firstOf_cons]
  unfold Connection.sources Connection.firstOf
  rw [List.append_assoc, List.findSome?_append, Option.getD_or]
  rfl

/-! ## The law -/

/-- **The connection of a run, setting by setting**: the first of the command line, the file and the environment that
    says something is followed, else it is as usual; then the certificates of the environment are put in place. -/
theorem settings_layered {a : Arguments} {w : Surroundings} {j : Journal} {data entries : Mapping} {s : Settings}
    {written : List WrittenFile}
    (hfile : FileSettings.sections a.config w.environment w.files = .ok ⟨data, entries⟩)
    (h : (a.settings w).result j = .ok (s, written)) :
    Certificates.Furnishes w.environment w.temporary
      (fun t => Connection.firstOf (Connection.sources a.brokers data w.environment t) t) s.connection written := by
  obtain ⟨merged, hmerged, hmade⟩ := settings_connection hfile h
  obtain ⟨hconnection, hwritten⟩ := Prod.mk.inj hmade
  have hbefore : (a.withBrokers merged).get
      = fun t => Connection.firstOf (Connection.sources a.brokers data w.environment t) t :=
    funext (withBrokers_merged_get hmerged)
  rw [hconnection, hwritten, ← hbefore]
  exact Certificates.furnish_furnishes _ _ _

/-- All layers have their say: the command line names the servers, the file a timeout, the environment a user and a
    certificate. -/
theorem settings_layered_of_script :
    let a : Arguments := { Arguments.usual with brokers := some "other:9092" }
    let w : Surroundings :=
      .holding
        [("KFC_CONFIG", "c.yaml"), ("KAFKA_BOOTSTRAP_SERVERS", "named:9092"),
         ("KAFKA_URL", "kafka+ssl://remote:9096"), ("KAFKA_SASL_USERNAME", "me"), ("KAFKA_TRUSTED_CERT", "pem")]
        [("c.yaml", "kafka:\n  connection:\n    request_timeout_ms: 250\n")]
    ∃ s written, (a.settings w).result .empty = .ok (s, written)
      ∧ s.connection.servers = .text "other:9092" ∧ s.connection.protocol = .text "SSL"
      ∧ s.connection.username = .text "me" ∧ s.connection.requestTimeout = 250
      ∧ s.connection.authority = .text "certificates/ca.pem"
      ∧ written = [⟨"certificates/ca.pem", "pem\n", 0o600⟩] := by
  intro a w
  obtain ⟨⟨data, entries⟩, hfile, hread⟩ := exists_ok_of_any
    (x := FileSettings.sections a.config w.environment w.files)
    (p := fun sections => sections.connection.map numbered? == [some ("request_timeout_ms", 250)]) (by decide +kernel)
  obtain rfl := eq_of_numbered? [("request_timeout_ms", 250)] (eq_of_beq hread)
  obtain ⟨⟨s, written⟩, hs, _⟩ := exists_ok_of_any (x := (a.settings w).result .empty) (p := fun _ => true)
    (by decide +kernel)
  have hlayers := settings_layered hfile hs
  have hpem : (⟨"KAFKA_TRUSTED_CERT", .authority, "ca.pem"⟩ : Certificates.Source) ∈ Certificates.sources := .head _
  refine ⟨s, written, hs, ?_, ?_, ?_, ?_, ?_, ?_⟩
  · exact (hlayers.others .servers (by decide) rfl).trans rfl
  · exact hlayers.encrypted rfl ⟨_, hpem, rfl⟩
  · exact (hlayers.others .username (by decide) rfl).trans rfl
  · exact Value.int.inj (hlayers.others .requestTimeout (by decide) rfl)
  · exact (hlayers.placed _ hpem "pem" rfl rfl).trans (Value.same_text_iff.mp (by decide +kernel))
  · exact hlayers.written.trans (by decide +kernel)

end Arguments

end TopicReader
