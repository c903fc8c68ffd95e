import TopicReader.Proofs.Settings.Precedence

/-!
# `Proofs.Settings.Absence` — a variable that is empty, and one that is not there

Most variables are read so that an empty text says as much as none: where it is, something else has the say. One is
not, the mechanism of a login, whose empty text is taken as it is. Here two runs are compared, one with some empty
variables and one without them: they are the same in every respect unless the mechanism is among them and the file
leaves it open, and then it is told how they differ.

## Contents
- **References.** `Value.references`: what the texts of a value refer to; the other variables have no say in them.
- **Without some variables.** `Environment.unsetAll`, and who reads nothing but what is not empty.
- **The mechanism.** `Connection.withMechanism`, and how far it gets into the settings.
- **The law.** `Arguments.settings_unsetAll`.
-/

namespace TopicReader

/-! ## References -/

/-- The references that are found in a text, after passing over `skip` characters. -/
def Reference.found (skip : Nat) : List Char → List Reference
  | [] => []
  | c :: rest =>
    match skip with
    | n + 1 => found n rest
    | 0 =>
      match ofChars? (c :: rest) with
      | some r => r :: found (r.text.length - 1) rest
      | none => found 0 rest

namespace Value

mutual

/-- The references in the texts of a value; those in keys are none. -/
def references (v : Value) : List Reference :=
  match v with
  | .text s => Reference.found 0 s.toList
  | .list xs => referencesAll xs
  | .map es => referencesEntries es
  | _ => []

/-- The references in every item. -/
def referencesAll (xs : List Value) : List Reference :=
  match xs with
  | [] => []
  | x :: rest => references x ++ referencesAll rest

/-- The references in the value of every entry. -/
def referencesEntries (es : List (Value × Value)) : List Reference :=
  match es with
  | [] => []
  | (_, v) :: rest => references v ++ referencesEntries rest

end

end Value

section

variable {env other : Environment}

/-- A text depends on the variables that it refers to, and on no others. -/
theorem expandChars_congr {cs : List Char} {skip : Nat}
    (h : ∀ r ∈ Reference.found skip cs, r.value env = r.value other) :
    expandChars env skip cs = expandChars other skip cs := by
  induction cs generalizing skip with
  | nil => rfl
  | cons c rest ih =>
    cases skip with
    | succ n =>
      rw [Reference.found] at h
      rw [expandChars, expandChars]
      exact ih h
    | zero =>
      rw [Reference.found] at h
      rw [expandChars, expandChars]
      cases hread : Reference.ofChars? (c :: rest) with
      | some r =>
        rw [hread] at h
        obtain ⟨hr, hrest⟩ := List.forall_mem_cons.mp h
        dsimp only
        rw [hr, ih hrest]
      | none =>
        rw [hread] at h
        exact congrArg (c :: ·) (ih h)

namespace Value

mutual

/-- A value depends on the variables that it refers to, and on no others. -/
theorem expand_congr {v : Value} (h : ∀ r ∈ v.references, r.value env = r.value other) :
    v.expand env = v.expand other := by
  cases v with
  | text s =>
    rw [references] at h
    rw [expand, expand, expandText, expandText, expandChars_congr h]
  | list xs =>
    rw [references] at h
    rw [expand, expand, expandAll_congr h]
  | map es =>
    rw [references] at h
    rw [expand, expand, expandEntries_congr h]
  | _ => simp only [expand]

theorem expandAll_congr {xs : List Value} (h : ∀ r ∈ referencesAll xs, r.value env = r.value other) :
    expandAll env xs = expandAll other xs := by
  cases xs with
  | nil => simp only [expandAll]
  | cons x rest =>
    rw [referencesAll] at h
    obtain ⟨hx, hrest⟩ := List.forall_mem_append.mp h
    rw [expandAll, expandAll, expand_congr hx, expandAll_congr hrest]

theorem expandEntries_congr {es : List (Value × Value)}
    (h : ∀ r ∈ referencesEntries es, r.value env = r.value other) : expandEntries env es = expandEntries other es := by
  cases es with
  | nil => simp only [expandEntries]
  | cons e rest =>
    obtain ⟨k, v⟩ := e
    rw [referencesEntries] at h
    obtain ⟨hv, hrest⟩ := List.forall_mem_append.mp h
    rw [expandEntries, expandEntries, expand_congr hv, expandEntries_congr hrest]

end

end Value

end

/-- What follows a computation need only be the same for what the computation comes to. -/
theorem Logged.bind_congr_result {α β : Type} {x : Logged α} {k l : α → Logged β}
    (h : ∀ a j, x.result j = .ok a → k a = l a) : x >>= k = x >>= l := by
  have hrun : ∀ j, (x >>= k).run.run j = (x >>= l).run.run j := by
    intro j
    rw [run_bind, run_bind]
    cases hx : x.run.run j with
    | mk made next =>
      cases made with
      | error f => rfl
      | ok a =>
        have hresult : x.result j = .ok a := by rw [result, hx]
        dsimp only
        rw [h a j hresult]
  exact ExceptT.ext (StateT.ext hrun)

/-! ## Without some variables -/

/-- The environment without some variables. -/
def Environment.unsetAll (env : Environment) (names : List String) : Environment :=
  env.filter fun v => !names.contains v.1

/-- The surroundings without some variables. -/
def Surroundings.unsetAll (w : Surroundings) (names : List String) : Surroundings :=
  { w with environment := w.environment.unsetAll names }

/-- **Only empty variables** are among the names, and perhaps some that are not there at all. -/
def Environment.HoldsNothingUnder (env : Environment) (names : List String) : Prop :=
  ∀ name ∈ names, env.getOr name "" = ""

instance (env : Environment) (names : List String) : Decidable (env.HoldsNothingUnder names) :=
  inferInstanceAs (Decidable (∀ name ∈ names, env.getOr name "" = ""))

namespace Environment

variable {env : Environment} {names : List String} {name : String}

theorem get?_unsetAll_of_mem (h : name ∈ names) (env : Environment) : (env.unsetAll names).get? name = none := by
  unfold get? unsetAll
  rw [List.find?_filter, Option.map_eq_none_iff, List.find?_eq_none]
  intro v _ hv
  obtain ⟨hkept, hname⟩ : v.1 ∉ names ∧ v.1 = name := by simpa using hv
  exact hkept (hname ▸ h)

theorem get?_unsetAll_of_notMem (h : name ∉ names) (env : Environment) :
    (env.unsetAll names).get? name = env.get? name := by
  unfold get? unsetAll
  rw [List.find?_filter]
  congr 2
  funext v
  by_cases hv : v.1 = name
  · simp [hv, h]
  · simp [hv]

/-- A variable that is not there is not unset. -/
theorem get?_unsetAll_of_none (h : name ∈ names → env.get? name = none) :
    (env.unsetAll names).get? name = env.get? name := by
  by_cases hname : name ∈ names
  · rw [get?_unsetAll_of_mem hname, h hname]
  · exact get?_unsetAll_of_notMem hname env

/-- **Who takes an empty text for nothing** does not notice that the variable is gone. -/
theorem getOr_unsetAll (h : env.HoldsNothingUnder names) (name : String) :
    (env.unsetAll names).getOr name "" = env.getOr name "" := by
  by_cases hname : name ∈ names
  · rw [h name hname, getOr, get?_unsetAll_of_mem hname]
    rfl
  · rw [getOr, getOr, get?_unsetAll_of_notMem hname]

end Environment

section

variable {env : Environment} {names : List String}

theorem Certificates.held?_eq (env : Environment) (source : Source) :
    held? env source = if env.getOr source.name "" = "" then none else some (env.getOr source.name "") := by
  unfold held? Environment.getOr
  cases env.get? source.name with
  | none => rfl
  | some text => by_cases h : text = "" <;> simp [Option.filter, h]

theorem Certificates.present_unsetAll (h : env.HoldsNothingUnder names) :
    present (env.unsetAll names) = present env := by
  rw [present_eq, present_eq]
  refine List.filterMap_congr fun source _ => ?_
  rw [held?_eq, held?_eq, Environment.getOr_unsetAll h]

namespace FileSettings

theorem pathOf_eq (path : Option String) (env : Environment) :
    pathOf path env
      = match path with
        | some p => some (Path.normalize p)
        | none =>
          if env.getOr "KFC_CONFIG" "" = "" then none else some (Path.normalize (env.getOr "KFC_CONFIG" "")) := by
  unfold pathOf Environment.getOr
  cases path with
  | some p => rfl
  | none => cases env.get? "KFC_CONFIG" <;> rfl

theorem pathOf_unsetAll (h : env.HoldsNothingUnder names) (path : Option String) :
    pathOf path (env.unsetAll names) = pathOf path env := by
  rw [pathOf_eq, pathOf_eq, Environment.getOr_unsetAll h]

/-- The references in the file of a run; none if no file is read, or nothing is found in it. -/
def references (path : Option String) (env : Environment) (files : FileStore) : List Reference :=
  match pathOf path env with
  | none => []
  | some p =>
    match documentAt files p >>= Yaml.Document.finite with
    | .ok v => v.references
    | .error _ => []

/-- The value of a document is made the same of without the variables that it does not refer to. -/
theorem expand_unsetAll {path : Option String} {files : FileStore} {p : String}
    (apart : ∀ r ∈ references path env files, String.ofList r.name ∉ names) (hpath : pathOf path env = some p)
    {d : Yaml.Document} (hdocument : documentAt files p = .ok d) {v : Value} (hvalue : d.finite = .ok v) :
    v.expand (env.unsetAll names) = v.expand env := by
  refine Value.expand_congr fun r hr => ?_
  have hmem : r ∈ references path env files := by
    rw [references, hpath]
    dsimp only
    rw [hdocument, ok_bind, hvalue]
    exact hr
  unfold Reference.value
  rw [Environment.get?_unsetAll_of_notMem (apart r hmem)]

section

variable {path : Option String} {files : FileStore} (h : env.HoldsNothingUnder names)
  (apart : ∀ r ∈ references path env files, String.ofList r.name ∉ names)

include h apart

theorem sections_unsetAll : sections path (env.unsetAll names) files = sections path env files := by
  unfold sections
  rw [pathOf_unsetAll h]
  cases hpath : pathOf path env with
  | none => rfl
  | some p =>
    have hvalue : valueAt files (env.unsetAll names) p = valueAt files env p := by
      unfold valueAt
      cases hdocument : documentAt files p with
      | error f => rfl
      | ok d =>
        rw [ok_bind, ok_bind]
        cases hfinite : d.finite with
        | error f => rfl
        | ok v =>
          rw [ok_bind, ok_bind, expand_unsetAll apart hpath hdocument hfinite]
    dsimp only
    rw [hvalue]

/-- **Reading the file** does not need the variables that it does not refer to. -/
theorem load_unsetAll : load path (env.unsetAll names) files = load path env files := by
  unfold load
  rw [pathOf_unsetAll h]
  cases hpath : pathOf path env with
  | none => rfl
  | some p =>
    have hread : ∀ d v, documentAt files p = .ok d → d.finite = .ok v →
        v.expand (env.unsetAll names) = v.expand env :=
      fun d v hdocument hvalue => expand_unsetAll apart hpath hdocument hvalue
    dsimp only
    cases files.lookup p with
    | missing => rfl
    | unnameable => rfl
    | directory =>
      refine bind_congr fun _ => Logged.bind_congr_result fun d j hd => Logged.bind_congr_result fun v k hv => ?_
      rw [hread d v hd hv]
    | file bytes =>
      refine bind_congr fun _ => Logged.bind_congr_result fun d j hd => Logged.bind_congr_result fun v k hv => ?_
      rw [hread d v hd hv]

end

end FileSettings

end

/-! ## The mechanism -/

namespace Connection

/-- The connection with another mechanism. -/
def withMechanism (c : Connection) (mechanism : String) : Connection := { c with mechanism := .text mechanism }

end Connection

/-- The settings with another mechanism. -/
def Settings.withMechanism (s : Settings) (mechanism : String) : Settings :=
  { s with connection := s.connection.withMechanism mechanism }

namespace Connection

theorem withMechanism_get (c : Connection) (mechanism : String) {s : Setting} (h : s ≠ .mechanism) :
    (c.withMechanism mechanism).get s = c.get s := by
  cases s <;> first | rfl | exact absurd rfl h

/-- How a mapping is refused does not depend on the connection that was there before. -/
theorem merged_error_congr {c d : Connection} {data : Mapping} {f : Failure} (h : c.merged data = .error f) :
    d.merged data = .error f := by
  rw [merged_eq] at h ⊢
  rcases bind_eq_error_iff.mp h with hsort | ⟨unknown, hsort, hrest⟩
  · exact bind_eq_error_iff.mpr (.inl hsort)
  · refine bind_eq_error_iff.mpr (.inr ⟨unknown, hsort, ?_⟩)
    by_cases hempty : unknown.isEmpty = true
    · rw [if_pos hempty] at hrest ⊢
      exact setAll_error_iff.mpr (setAll_error_iff.mp hrest)
    · rw [if_neg hempty] at hrest ⊢
      exact hrest

/-- What a mapping names need not be the same before. -/
theorem merged_congr {c d : Connection} {data : Mapping} (h : ∀ s, data.getText? s.name = none → c.get s = d.get s) :
    c.merged data = d.merged data := by
  cases hc : c.merged data with
  | error f => exact (merged_error_congr hc).symm
  | ok made =>
    obtain ⟨other, hother⟩ : ∃ other, d.merged data = .ok other := merged_ok_iff.mpr (merged_ok_iff.mp ⟨made, hc⟩)
    have hsame : made = other := by
      refine ext_get fun s => ?_
      rw [merged_get hc, merged_get hother, given, given]
      cases hnamed : data.getText? s.name with
      | none => exact h s hnamed
      | some v => rfl
    rw [hother, hsame]

/-- A mapping that is silent about the mechanism leaves it alone. -/
theorem merged_withMechanism {data : Mapping} (silent : data.getText? Setting.mechanism.name = none) (c : Connection)
    (mechanism : String) :
    (c.withMechanism mechanism).merged data = (c.merged data).map (·.withMechanism mechanism) := by
  cases hc : c.merged data with
  | error f => exact merged_error_congr hc
  | ok made =>
    obtain ⟨other, hother⟩ : ∃ other, (c.withMechanism mechanism).merged data = .ok other :=
      merged_ok_iff.mpr (merged_ok_iff.mp ⟨made, hc⟩)
    have hsame : other = made.withMechanism mechanism := by
      refine ext_get fun s => ?_
      by_cases hs : s = .mechanism
      · rw [merged_get hother, given, hs, silent]
        rfl
      · rw [withMechanism_get made mechanism hs, merged_get hother, merged_get hc, given, given,
          withMechanism_get c mechanism hs]
    rw [hother, hsame]
    rfl

/-- Of a valid connection only the mechanism can be wrong afterwards, and only if there is a login. -/
theorem validate_withMechanism {c : Connection} (h : c.validate = .ok ()) (mechanism : String) :
    (c.withMechanism mechanism).validate
      = if startsWith "SASL" c.protocol && !isWord saslMechanisms (.text mechanism) then
          .error (.misconfigured (.unknownMechanism (.text mechanism)))
        else .ok () := by
  unfold validate at h ⊢
  show (if !c.servers.truthy then _ else if !isWord securityProtocols c.protocol then _
    else if startsWith "SASL" c.protocol && !isWord saslMechanisms (.text mechanism) then _
    else if c.metadataTimeout ≤ 0 then _ else _) = _
  by_cases hservers : (!c.servers.truthy) = true
  · rw [if_pos hservers] at h
    cases h
  rw [if_neg hservers] at h ⊢
  by_cases hprotocol : (!isWord securityProtocols c.protocol) = true
  · rw [if_pos hprotocol] at h
    cases h
  rw [if_neg hprotocol] at h ⊢
  by_cases hlogin : (startsWith "SASL" c.protocol && !isWord saslMechanisms c.mechanism) = true
  · rw [if_pos hlogin] at h
    cases h
  rw [if_neg hlogin] at h
  by_cases htimeout : c.metadataTimeout ≤ 0
  · rw [if_pos htimeout] at h
    cases h
  rw [if_neg htimeout]
  rfl

/-- Without empty variables the environment says the same, but for the mechanism. -/
theorem ofEnvironment_unsetAll {env : Environment} {names : List String} (h : env.HoldsNothingUnder names) :
    ofEnvironment (env.unsetAll names)
      = (ofEnvironment env).withMechanism ((env.unsetAll names).getOr "KAFKA_SASL_MECHANISM" "PLAIN") := by
  unfold ofEnvironment withMechanism
  simp only [Environment.getOr_unsetAll h]

end Connection

theorem Certificates.bystander_withMechanism (mechanism : String) :
    Certificates.Bystander (·.withMechanism mechanism) where
  kept := by
    intro c s hs
    exact Connection.withMechanism_get c mechanism fun heq => by rw [heq] at hs; cases hs
  setFile := by
    intro c s path
    cases s <;> rfl
  encrypted := by
    intro c
    unfold encrypted
    show (if c.protocol.same (.text "PLAINTEXT") then _ else _) = _
    split <;> rfl

theorem Certificates.furnish_congr {env other : Environment} (h : present env = present other) (c : Connection)
    (directory : String) : furnish c env directory = furnish c other directory := by
  unfold furnish
  rw [h]

namespace Arguments

theorem withBrokers_withMechanism (a : Arguments) (c : Connection) (mechanism : String) :
    a.withBrokers (c.withMechanism mechanism) = (a.withBrokers c).withMechanism mechanism := by
  unfold withBrokers
  cases a.brokers with
  | none => rfl
  | some servers => by_cases h : servers = "" <;> simp [h, Connection.withMechanism]

/-- **Surroundings that differ in the mechanism** of the environment, and in nothing else that is read. -/
structure DifferInMechanism (a : Arguments) (w v : Surroundings) (mechanism : String) : Prop where
  environment : Connection.ofEnvironment w.environment
    = (Connection.ofEnvironment v.environment).withMechanism mechanism
  present : Certificates.present w.environment = Certificates.present v.environment
  temporary : w.temporary = v.temporary
  sections : FileSettings.sections a.config w.environment w.files = FileSettings.sections a.config v.environment v.files

variable {a : Arguments} {w v : Surroundings} {mechanism : String} {data entries : Mapping}

/-- Where the file is silent, the mechanism of the environment becomes that of the connection. -/
theorem DifferInMechanism.connected (h : DifferInMechanism a w v mechanism)
    (silent : data.getText? Setting.mechanism.name = none) :
    a.connected w data = (a.connected v data).map fun made => (made.1.withMechanism mechanism, made.2) := by
  unfold Arguments.connected
  rw [h.environment, Connection.merged_withMechanism silent]
  cases (Connection.ofEnvironment v.environment).merged data with
  | error f => rfl
  | ok merged =>
    show Except.ok (Certificates.furnish (a.withBrokers (merged.withMechanism mechanism)) w.environment w.temporary) = _
    rw [withBrokers_withMechanism, (Certificates.bystander_withMechanism mechanism).furnish,
      Certificates.furnish_congr h.present, h.temporary]
    rfl

/-- **Settings with one mechanism tell those with another**: they fail for it if there is a login and it is none of the
    mechanisms that there are. -/
theorem DifferInMechanism.result (h : DifferInMechanism a w v mechanism)
    (hfile : FileSettings.sections a.config v.environment v.files = .ok ⟨data, entries⟩)
    (silent : data.getText? Setting.mechanism.name = none) {j : Journal} {s : Settings} {written : List WrittenFile}
    (made : (a.settings v).result j = .ok (s, written)) :
    (a.settings w).result j
      = if Connection.startsWith "SASL" s.connection.protocol
            && !Connection.isWord saslMechanisms (.text mechanism) then
          .error (.misconfigured (.unknownMechanism (.text mechanism)))
        else .ok (s.withMechanism mechanism, written) := by
  obtain ⟨parts, fromFile, c, properties, hparts, hproperties, hconnected, harguments, hvalid, rfl⟩ :=
    settings_parts made
  obtain rfl : parts = ⟨data, entries⟩ := Except.ok.inj (hparts.symm.trans hfile)
  have hother : a.connected w data = .ok (c.withMechanism mechanism, written) := by
    rw [h.connected silent, hconnected]
    rfl
  rw [settings_result, h.sections, hfile, ok_bind, assembled, hproperties, ok_bind, hother, ok_bind, finished,
    harguments, ok_bind, Connection.validate_withMechanism hvalid]
  show _ = if Connection.startsWith "SASL" c.protocol
    && !Connection.isWord saslMechanisms (.text mechanism) then _ else _
  split <;> rfl

/-- Where the file is silent, settings have the mechanism of the environment. -/
theorem DifferInMechanism.usual (h : DifferInMechanism a w v mechanism)
    (hfile : FileSettings.sections a.config w.environment w.files = .ok ⟨data, entries⟩)
    (silent : data.getText? Setting.mechanism.name = none) {j : Journal} {s : Settings} {written : List WrittenFile}
    (made : (a.settings w).result j = .ok (s, written)) : s.connection.mechanism = .text mechanism := by
  obtain ⟨merged, hmerged, hfurnished⟩ := settings_connection hfile made
  obtain ⟨hconnection, -⟩ := Prod.mk.inj hfurnished
  have hplaced := Certificates.furnish_furnishes (a.withBrokers merged) w.environment w.temporary
  have hbrokers : (a.withBrokers merged).get .mechanism = merged.get .mechanism := withBrokers_get a merged .mechanism
  have hmechanism : merged.get .mechanism = .text mechanism := by
    rw [Connection.merged_get hmerged, Connection.given, silent, h.environment]
    rfl
  rw [hconnection]
  exact (hplaced.others .mechanism (by decide) rfl).trans (hbrokers.trans hmechanism)

/-! ## The law -/

/-- **Does the mechanism count?** Its variable is among the names and bound to an empty text, and the file can be read
    and is silent about it. -/
structure HangsOnMechanism (a : Arguments) (w : Surroundings) (names : List String) : Prop where
  among : "KAFKA_SASL_MECHANISM" ∈ names
  bound : w.environment.get? "KAFKA_SASL_MECHANISM" = some ""
  silent : ∃ parts, FileSettings.sections a.config w.environment w.files = .ok parts
    ∧ parts.connection.getText? Setting.mechanism.name = none

section

variable {names : List String} (empty : w.environment.HoldsNothingUnder names)
  (apart : ∀ r ∈ FileSettings.references a.config w.environment w.files, String.ofList r.name ∉ names)

include empty apart

/-- Where the mechanism does not count, nothing changes. -/
theorem settings_unsetAll_of_not_hangs (h : ¬ HangsOnMechanism a w names) :
    a.settings (w.unsetAll names) = a.settings w := by
  have hload := FileSettings.load_unsetAll empty apart
  have hpresent := Certificates.present_unsetAll empty
  have henvironment := Connection.ofEnvironment_unsetAll empty
  have hmaterialize (c : Connection) : Certificates.materialize c (w.environment.unsetAll names) w.temporary
      = Certificates.materialize c w.environment w.temporary := by
    unfold Certificates.materialize
    rw [hpresent]
  unfold settings
  show FileSettings.load a.config (w.environment.unsetAll names) w.files >>= _ = _
  rw [hload]
  refine Logged.bind_congr_result fun file j hfile => ?_
  have hmerged : (Connection.ofEnvironment (w.environment.unsetAll names)).merged file.connection
      = (Connection.ofEnvironment w.environment).merged file.connection := by
    refine Connection.merged_congr fun s hs => ?_
    rw [henvironment]
    by_cases hmechanism : s = .mechanism
    · -- The file is silent about the mechanism, so its variable was not taken away.
      subst hmechanism
      rw [(FileSettings.load_yields _ _ _).result_eq j] at hfile
      obtain ⟨parts, hparts, hmade⟩ := bind_eq_ok_iff.mp hfile
      obtain ⟨properties, -, hconnection⟩ := bind_eq_ok_iff.mp hmade
      cases hconnection
      have hkept : (w.environment.unsetAll names).get? "KAFKA_SASL_MECHANISM"
          = w.environment.get? "KAFKA_SASL_MECHANISM" := by
        refine Environment.get?_unsetAll_of_none fun hamong => ?_
        cases hbound : w.environment.get? "KAFKA_SASL_MECHANISM" with
        | none => rfl
        | some text =>
          have htext : w.environment.getOr "KAFKA_SASL_MECHANISM" "" = "" := empty _ hamong
          rw [Environment.getOr, hbound] at htext
          obtain rfl : text = "" := htext
          exact absurd ⟨hamong, hbound, parts, hparts, hs⟩ h
      show Value.text ((w.environment.unsetAll names).getOr "KAFKA_SASL_MECHANISM" "PLAIN")
        = Value.text (w.environment.getOr "KAFKA_SASL_MECHANISM" "PLAIN")
      rw [Environment.getOr, hkept]
      rfl
    · exact Connection.withMechanism_get _ _ hmechanism
  show (liftM ((Connection.ofEnvironment (w.environment.unsetAll names)).merged file.connection) >>= fun merged =>
    Certificates.materialize (a.withBrokers merged) (w.environment.unsetAll names) w.temporary >>= _) = _
  rw [hmerged]
  simp only [hmaterialize]

/-- Where it does, the two runs differ in it. -/
theorem HangsOnMechanism.differs (h : HangsOnMechanism a w names) :
    DifferInMechanism a w (w.unsetAll names) "" ∧ DifferInMechanism a (w.unsetAll names) w "PLAIN" := by
  have hpresent := Certificates.present_unsetAll empty
  have hsections := FileSettings.sections_unsetAll empty apart
  have hwithout : Connection.ofEnvironment (w.environment.unsetAll names)
      = (Connection.ofEnvironment w.environment).withMechanism "PLAIN" := by
    rw [Connection.ofEnvironment_unsetAll empty, Environment.getOr, Environment.get?_unsetAll_of_mem h.among]
    rfl
  have hmechanism : (Connection.ofEnvironment w.environment).mechanism = .text "" := by
    show Value.text (w.environment.getOr "KAFKA_SASL_MECHANISM" "PLAIN") = .text ""
    rw [Environment.getOr, h.bound]
    rfl
  have hwith : Connection.ofEnvironment w.environment
      = (Connection.ofEnvironment (w.environment.unsetAll names)).withMechanism "" := by
    rw [hwithout]
    refine Connection.ext_get fun s => ?_
    cases s with
    | mechanism => exact hmechanism
    | _ => rfl
  exact ⟨⟨hwith, hpresent.symm, rfl, hsections.symm⟩, ⟨hwithout, hpresent, rfl, hsections⟩⟩

end

/-- **Settings without some empty variables.** Unless the mechanism counts they are the same as with them: the same
    settings or the same failure, with the same log. Where it counts, both fail, or settings without them have the
    usual mechanism, and with them a login is refused for an empty one, and without a login it stays empty. -/
theorem settings_unsetAll (a : Arguments) (w : Surroundings) (names : List String)
    (empty : w.environment.HoldsNothingUnder names)
    (apart : ∀ r ∈ FileSettings.references a.config w.environment w.files, String.ofList r.name ∉ names) :
    (¬ HangsOnMechanism a w names → a.settings (w.unsetAll names) = a.settings w)
      ∧ (HangsOnMechanism a w names → ∀ j,
        (∃ f g, (a.settings (w.unsetAll names)).result j = .error f ∧ (a.settings w).result j = .error g)
          ∨ ∃ s written, (a.settings (w.unsetAll names)).result j = .ok (s, written)
            ∧ s.connection.mechanism = .text "PLAIN"
            ∧ (a.settings w).result j
              = if Connection.startsWith "SASL" s.connection.protocol then
                  .error (.misconfigured (.unknownMechanism (.text "")))
                else .ok (s.withMechanism "", written)) := by
  refine ⟨settings_unsetAll_of_not_hangs empty apart, fun h j => ?_⟩
  obtain ⟨hwith, hwithout⟩ := h.differs empty apart
  obtain ⟨⟨data, entries⟩, hfile, silent⟩ := h.silent
  cases hresult : (a.settings (w.unsetAll names)).result j with
  | error f =>
    cases hother : (a.settings w).result j with
    | error g => exact .inl ⟨f, g, rfl, rfl⟩
    | ok made =>
      -- The usual mechanism is one that there is, so it would do here as well.
      have hmade := hwithout.result hfile silent hother
      have hword : Connection.isWord saslMechanisms (.text "PLAIN") = true := rfl
      rw [hresult, hword, Bool.not_true, Bool.and_false, if_neg Bool.false_ne_true] at hmade
      cases hmade
  | ok made =>
    obtain ⟨s, written⟩ := made
    have hsections : FileSettings.sections a.config (w.unsetAll names).environment (w.unsetAll names).files
        = .ok ⟨data, entries⟩ := hwithout.sections.trans hfile
    have hword : Connection.isWord saslMechanisms (.text "") = false := rfl
    have hmade := hwith.result hsections silent hresult
    rw [hword, Bool.not_false, Bool.and_true] at hmade
    exact .inr ⟨s, written, rfl, hwithout.usual hsections silent hresult, hmade⟩

/-- A file that refers to a variable, and empty variables that it does not refer to. -/
theorem settings_unsetAll_of_script :
    let a : Arguments := Arguments.usual
    let w : Surroundings :=
      .holding
        [("KFC_CONFIG", "c.yaml"), ("KAFKA_BOOTSTRAP_SERVERS", ""), ("KAFKA_URL", ""), ("KAFKA_SASL_MECHANISM", ""),
         ("KAFKA_TRUSTED_CERT", ""), ("BROKER", "other:9092")]
        [("c.yaml", "kafka:\n  connection:\n    bootstrap_servers: $\x7bBROKER\x7d\n    sasl_mechanism: PLAIN\n")]
    let names := ["KAFKA_BOOTSTRAP_SERVERS", "KAFKA_URL", "KAFKA_SASL_MECHANISM", "KAFKA_TRUSTED_CERT"]
    a.settings (w.unsetAll names) = a.settings w := by
  intro a w names
  have hempty : w.environment.HoldsNothingUnder names := by decide +kernel
  have hreferences :
      (FileSettings.references a.config w.environment w.files).map (String.ofList ·.name) = ["BROKER"] := by
    decide +kernel
  have hapart : ∀ r ∈ FileSettings.references a.config w.environment w.files, String.ofList r.name ∉ names := by
    intro r hr
    have hname : String.ofList r.name ∈ ["BROKER"] := hreferences ▸ List.mem_map_of_mem hr
    rw [List.mem_singleton.mp hname]
    decide
  refine (settings_unsetAll a w names hempty hapart).1 fun h => ?_
  obtain ⟨parts, hparts, hsilent⟩ := h.silent
  obtain ⟨named, hnamed, hsome⟩ := exists_ok_of_any (x := FileSettings.sections a.config w.environment w.files)
    (p := fun sections => (sections.connection.getText? Setting.mechanism.name).isSome) (by decide +kernel)
  cases hnamed.symm.trans hparts
  rw [hsilent] at hsome
  cases hsome

/-- **An empty mechanism is not as good as none**: with a login it is refused, where the usual one would do. -/
theorem settings_refused_for_empty_mechanism :
    let a : Arguments := Arguments.usual
    let w : Surroundings := .holding [("KAFKA_SECURITY_PROTOCOL", "SASL_PLAINTEXT"), ("KAFKA_SASL_MECHANISM", "")] []
    (∃ made, (a.settings (w.unsetAll ["KAFKA_SASL_MECHANISM"])).result .empty = .ok made)
      ∧ (a.settings w).result .empty = .error (.misconfigured (.unknownMechanism (.text ""))) := by
  intro a w
  obtain ⟨⟨s, written⟩, hmade, hlogin⟩ := exists_ok_of_any
    (x := (a.settings (w.unsetAll ["KAFKA_SASL_MECHANISM"])).result .empty)
    (p := fun made => Connection.startsWith "SASL" made.1.connection.protocol) (by decide +kernel)
  have hempty : w.environment.HoldsNothingUnder ["KAFKA_SASL_MECHANISM"] := by decide +kernel
  have hapart : ∀ r ∈ FileSettings.references a.config w.environment w.files,
      String.ofList r.name ∉ ["KAFKA_SASL_MECHANISM"] := fun r hr => nomatch hr
  have hhangs : HangsOnMechanism a w ["KAFKA_SASL_MECHANISM"] := ⟨List.mem_cons_self, rfl, ⟨[], []⟩, rfl, rfl⟩
  have hfile : FileSettings.sections a.config (w.unsetAll ["KAFKA_SASL_MECHANISM"]).environment w.files
      = .ok ⟨[], []⟩ := rfl
  have hresult := (hhangs.differs hempty hapart).1.result hfile rfl hmade
  have hword : Connection.isWord saslMechanisms (.text "") = false := rfl
  rw [hword, hlogin, Bool.not_false, Bool.and_true, if_pos rfl] at hresult
  exact ⟨⟨_, hmade⟩, hresult⟩

end Arguments

end TopicReader
