import Mathlib.Data.List.Basic
import TopicReader.Proofs.Settings.Merging

/-!
# `Proofs.Settings.Protocol` — what an address list does to the protocol

An address list in the environment may ask for encryption. The protocol that it implies goes with the connection even
where its servers do not, because a file or a command line that names other servers leaves the protocol alone. Here it
is told exactly when the protocol of a run would be the same without the address list.

## Contents
- **Without a variable.** `Environment.unset` and `Surroundings.unset`.
- **The protocol.** `Connection.impliedProtocol`, and `Arguments.settings_protocol` for a run.
- **The law.** `Arguments.settings_protocol_kept_iff`, and a run with other servers and an implied protocol.
-/

namespace TopicReader

/-! ## Without a variable -/

/-- The environment without a variable. -/
def Environment.unset (env : Environment) (name : String) : Environment := env.filter fun v => v.1 != name

/-- The surroundings without a variable. -/
def Surroundings.unset (w : Surroundings) (name : String) : Surroundings :=
  { w with environment := w.environment.unset name }

namespace Environment

theorem get?_unset_self (env : Environment) (name : String) : (env.unset name).get? name = none := by
  unfold get? unset
  rw [List.find?_filter]
  simp

theorem get?_unset_of_ne {name other : String} (h : other ≠ name) (env : Environment) :
    (env.unset name).get? other = env.get? other := by
  unfold get? unset
  rw [List.find?_filter]
  congr 2
  funext v
  by_cases hv : v.1 = other
  · simp [hv, h]
  · simp [hv]

theorem getOr_unset_self (env : Environment) (name other : String) : (env.unset name).getOr name other = other := by
  unfold getOr
  rw [get?_unset_self]
  rfl

theorem getOr_unset_of_ne {name other : String} (h : other ≠ name) (env : Environment) (usual : String) :
    (env.unset name).getOr other usual = env.getOr other usual := by
  unfold getOr
  rw [get?_unset_of_ne h]

end Environment

theorem Certificates.present_unset (env : Environment) {name : String} (h : ∀ s ∈ sources, s.name ≠ name) :
    present (env.unset name) = present env := by
  unfold present
  exact List.filterMap_congr fun s hs => by rw [Environment.get?_unset_of_ne (h s hs)]

/-! ## The protocol -/

namespace Connection

/-- Does the address list of the environment decide on encryption? A server list wins over it, and so does a
    protocol that is named. -/
def impliesTls (env : Environment) : Bool :=
  env.getOr "KAFKA_SECURITY_PROTOCOL" "" = "" && env.getOr "KAFKA_BOOTSTRAP_SERVERS" "" = "" &&
    (serversOf (env.getOr "KAFKA_URL" "")).2

/-- The protocol without an address list. -/
def plainProtocol (env : Environment) : String := orElse (env.getOr "KAFKA_SECURITY_PROTOCOL" "") "PLAINTEXT"

theorem ofEnvironment_protocol (env : Environment) :
    (ofEnvironment env).protocol = .text (if impliesTls env then "SSL" else plainProtocol env) := by
  unfold ofEnvironment impliesTls plainProtocol orElse
  by_cases hprotocol : env.getOr "KAFKA_SECURITY_PROTOCOL" "" = ""
  · by_cases hnamed : env.getOr "KAFKA_BOOTSTRAP_SERVERS" "" = ""
    · by_cases hurl : env.getOr "KAFKA_URL" "" = ""
      · simp [hprotocol, hnamed, hurl, show (serversOf "").2 = false from rfl]
      · by_cases htls : (serversOf (env.getOr "KAFKA_URL" "")).2 = true <;> simp [hprotocol, hnamed, hurl, htls]
    · simp [hprotocol, hnamed]
  · simp [hprotocol]

theorem impliesTls_unset (env : Environment) : impliesTls (env.unset "KAFKA_URL") = false := by
  unfold impliesTls
  rw [Environment.getOr_unset_self]
  simp [show (serversOf "").2 = false from rfl]

theorem plainProtocol_unset (env : Environment) : plainProtocol (env.unset "KAFKA_URL") = plainProtocol env := by
  unfold plainProtocol
  rw [Environment.getOr_unset_of_ne (by decide)]

end Connection

namespace Arguments

theorem withBrokers_protocol (a : Arguments) (c : Connection) : (a.withBrokers c).protocol = c.protocol := by
  unfold withBrokers
  split
  · split <;> rfl
  · rfl

/-- The connection of settings, by the parts that it is made of. -/
theorem settings_connection {a : Arguments} {w : Surroundings} {j : Journal} {data entries : Mapping} {s : Settings}
    {written : List WrittenFile}
    (hfile : FileSettings.sections a.config w.environment w.files = .ok ⟨data, entries⟩)
    (h : (a.settings w).result j = .ok (s, written)) :
    ∃ merged, (Connection.ofEnvironment w.environment).merged data = .ok merged
      ∧ (s.connection, written) = Certificates.furnish (a.withBrokers merged) w.environment w.temporary := by
  obtain ⟨parts, _, c, _, hparts, _, hconnected, _, _, rfl⟩ := settings_parts h
  obtain rfl : parts = ⟨data, entries⟩ := Except.ok.inj (hparts.symm.trans hfile)
  obtain ⟨merged, hmerged, hmade⟩ := bind_eq_ok_iff.mp hconnected
  exact ⟨merged, hmerged, (Except.ok.inj hmade).symm⟩

/-- **The protocol of a run** without certificates in the environment: that of the file, else that of the
    environment. Where the servers come from does not matter. -/
theorem settings_protocol {a : Arguments} {w : Surroundings} {j : Journal} {data entries : Mapping} {s : Settings}
    {written : List WrittenFile} (hpem : Certificates.present w.environment = [])
    (hfile : FileSettings.sections a.config w.environment w.files = .ok ⟨data, entries⟩)
    (h : (a.settings w).result j = .ok (s, written)) :
    s.connection.protocol
      = (data.getText? "security_protocol").getD (Connection.ofEnvironment w.environment).protocol := by
  obtain ⟨merged, hmerged, hmade⟩ := settings_connection hfile h
  rw [Certificates.furnish_of_absent hpem] at hmade
  obtain ⟨hconnection, _⟩ := Prod.mk.inj hmade
  rw [hconnection, withBrokers_protocol]
  have hget := Connection.merged_get hmerged .protocol
  unfold Connection.given at hget
  rw [show Setting.protocol.settled = id from rfl, Option.map_id_fun] at hget
  exact hget

/-! ## The law -/

/-- **The protocol is kept** without the address list of the environment exactly if that list decides nothing: the
    file names a protocol, or the environment does, or it names servers of its own, or no address asks for
    encryption. It does not matter whether the servers of the run are those of the list. -/
theorem settings_protocol_kept_iff {a : Arguments} {w : Surroundings} {j k : Journal} {data : Mapping}
    {entries others : Mapping} {s t : Settings} {written rewritten : List WrittenFile}
    (hpem : Certificates.present w.environment = [])
    (hfile : FileSettings.sections a.config w.environment w.files = .ok ⟨data, entries⟩)
    (hunset : FileSettings.sections a.config (w.unset "KAFKA_URL").environment w.files = .ok ⟨data, others⟩)
    (hs : (a.settings w).result j = .ok (s, written))
    (ht : (a.settings (w.unset "KAFKA_URL")).result k = .ok (t, rewritten)) :
    s.connection.protocol = t.connection.protocol
      ↔ (data.getText? "security_protocol").isSome = true
        ∨ w.environment.getOr "KAFKA_SECURITY_PROTOCOL" "" ≠ ""
        ∨ w.environment.getOr "KAFKA_BOOTSTRAP_SERVERS" "" ≠ ""
        ∨ (Connection.serversOf (w.environment.getOr "KAFKA_URL" "")).2 = false := by
  have hpem' : Certificates.present (w.unset "KAFKA_URL").environment = [] :=
    (Certificates.present_unset w.environment (by decide)).trans hpem
  rw [settings_protocol hpem hfile hs, settings_protocol hpem' hunset ht]
  cases data.getText? "security_protocol" with
  | some v => simp
  | none =>
    have hwith := Connection.ofEnvironment_protocol w.environment
    have hwithout := Connection.ofEnvironment_protocol (w.environment.unset "KAFKA_URL")
    rw [Connection.impliesTls_unset, Connection.plainProtocol_unset] at hwithout
    show (Connection.ofEnvironment w.environment).protocol
        = (Connection.ofEnvironment (w.environment.unset "KAFKA_URL")).protocol ↔ _
    rw [hwith, hwithout]
    cases himplied : Connection.impliesTls w.environment with
    | true =>
      unfold Connection.impliesTls at himplied
      simp only [Bool.and_eq_true, decide_eq_true_eq] at himplied
      obtain ⟨⟨hprotocol, hnamed⟩, htls⟩ := himplied
      simp [Connection.plainProtocol, Connection.orElse, hprotocol, hnamed, htls]
    | false =>
      unfold Connection.impliesTls at himplied
      simp only [Bool.and_eq_false_iff, decide_eq_false_iff_not] at himplied
      simpa [or_assoc] using himplied

/-- The environment names servers of its own beside an address list. -/
theorem settings_protocol_kept_iff_of_script :
    let a : Arguments := Arguments.usual
    let w : Surroundings :=
      .holding [("KAFKA_BOOTSTRAP_SERVERS", "other:9092"), ("KAFKA_URL", "kafka+ssl://remote:9096")] []
    ∃ s t, (a.settings w).result .empty = .ok s ∧ (a.settings (w.unset "KAFKA_URL")).result .empty = .ok t
      ∧ s.1.connection.protocol = t.1.connection.protocol := by
  intro a w
  obtain ⟨s, hs, _⟩ := exists_ok_of_any (x := (a.settings w).result .empty) (p := fun _ => true) (by decide +kernel)
  obtain ⟨t, ht, _⟩ := exists_ok_of_any (x := (a.settings (w.unset "KAFKA_URL")).result .empty) (p := fun _ => true)
    (by decide +kernel)
  exact ⟨s, t, hs, ht, (settings_protocol_kept_iff (by decide +kernel) rfl rfl hs ht).mpr (by decide +kernel)⟩

/-- **The protocol that an address list implies stays with other servers**: here the command line names them, and
    their connection is encrypted for the list. -/
theorem settings_protocol_implied_elsewhere :
    let a : Arguments := { Arguments.usual with brokers := some "other:9092" }
    let w : Surroundings := .holding [("KAFKA_URL", "kafka+ssl://remote:9096")] []
    Certificates.present w.environment = []
      ∧ ∃ s t, (a.settings w).result .empty = .ok s ∧ (a.settings (w.unset "KAFKA_URL")).result .empty = .ok t
        ∧ s.1.connection.servers ≠ .text (Connection.serversOf "kafka+ssl://remote:9096").1
        ∧ s.1.connection.protocol ≠ t.1.connection.protocol := by
  intro a w
  obtain ⟨s, hs, hshown⟩ := exists_ok_of_any (x := (a.settings w).result .empty)
    (p := fun s => s.1.connection.servers.quoted == "'other:9092'" && s.1.connection.protocol.quoted == "'SSL'")
    (by decide +kernel)
  obtain ⟨t, ht, hplain⟩ := exists_ok_of_any (x := (a.settings (w.unset "KAFKA_URL")).result .empty)
    (p := fun t => t.1.connection.protocol.quoted == "'PLAINTEXT'") (by decide +kernel)
  simp only [Bool.and_eq_true, beq_iff_eq] at hshown hplain
  refine ⟨by decide +kernel, s, t, hs, ht, fun h => ?_, fun h => ?_⟩
  · rw [h] at hshown
    exact absurd hshown.1 (by decide +kernel)
  · rw [h, hplain] at hshown
    exact absurd hshown.2 (by decide)

end Arguments

end TopicReader
