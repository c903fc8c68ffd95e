import TopicReader.Client.Script
import TopicReader.Proofs.Settings.ClientSettings
import TopicReader.Proofs.Settings.Furnishing
import TopicReader.Proofs.Settings.Protocol

/-!
# `Proofs.Settings.Secrecy` — a dump does not tell the password

A dump prints what the consumer would be told, with a mask in place of the password. Whatever else the command does on
the way to it, the password takes no part in that: it is carried from the environment into the connection and from
there into the consumer's settings, and nothing looks at it except to see whether it is empty. So two commands whose
environments differ in the password only leave the same behind: the same output, the same log, the same exit code.

## Contents
- **Another password.** `Connection.withPassword`, and that the parts of the settings carry it along.
- **The settings.** `Arguments.settings_withPassword`: the password can be put in afterwards.
- **The mask.** `Dump.masked`, and `Dump.ofRun_withPassword`: with the mask, one password is as good as another.
- **The law.** `Command.run_conceals_password`.
-/

namespace TopicReader

/-! ## Another password -/

/-- The variable that holds the password. -/
def passwordName : String := "KAFKA_SASL_PASSWORD"

/-- The connection with another password. -/
def Connection.withPassword (c : Connection) (password : String) : Connection := { c with password := .text password }

/-- The settings with another password. -/
def Settings.withPassword (s : Settings) (password : String) : Settings :=
  { s with connection := s.connection.withPassword password }

namespace Connection

theorem withPassword_get (c : Connection) (password : String) {s : Setting} (h : s ≠ .password) :
    (c.withPassword password).get s = c.get s := by
  cases s <;> first | rfl | exact absurd rfl h

/-- The environment says the password by one variable, which says nothing else. -/
theorem ofEnvironment_withPassword (env : Environment) :
    ofEnvironment env = (ofEnvironment (env.unset passwordName)).withPassword (env.getOr passwordName "") := by
  have hother {name : String} (h : name ≠ passwordName) (usually : String) :
      (env.unset passwordName).getOr name usually = env.getOr name usually :=
    Environment.getOr_unset_of_ne h env usually
  unfold ofEnvironment withPassword
  simp only [hother (show "KAFKA_BOOTSTRAP_SERVERS" ≠ passwordName by decide),
    hother (show "KAFKA_SECURITY_PROTOCOL" ≠ passwordName by decide),
    hother (show "KAFKA_URL" ≠ passwordName by decide),
    hother (show "KAFKA_SASL_MECHANISM" ≠ passwordName by decide),
    hother (show "KAFKA_SASL_USERNAME" ≠ passwordName by decide)]
  rfl

end Connection

theorem Arguments.withBrokers_withPassword (a : Arguments) (c : Connection) (password : String) :
    a.withBrokers (c.withPassword password) = (a.withBrokers c).withPassword password := by
  unfold withBrokers
  cases a.brokers with
  | none => rfl
  | some servers => by_cases h : servers = "" <;> simp [h, Connection.withPassword]

namespace Certificates

theorem bystander_withPassword (password : String) : Bystander (·.withPassword password) where
  kept := by
    intro c s hs
    exact Connection.withPassword_get c password fun heq => by rw [heq] at hs; cases hs
  setFile := by
    intro c s path
    cases s <;> rfl
  encrypted := by
    intro c
    unfold encrypted
    show (if c.protocol.same (.text "PLAINTEXT") then _ else _) = _
    split <;> rfl

/-- Certificates are put in place without a look at the password. -/
theorem materialize_withPassword (c : Connection) (env : Environment) (directory password : String) :
    materialize (c.withPassword password) env directory
      = Option.map (fun made => (made.1.withPassword password, made.2)) <$> materialize c env directory := by
  have hfile : ∀ item ∈ present env, item.1.setting.isFile = true := fun item hitem =>
    isFile_of_mem_sources (mem_present_iff.mp hitem).1
  have hplaced := (bystander_withPassword password).foldl_place hfile (Path.normalize directory) c []
  have hencrypted := (bystander_withPassword password).encrypted
  unfold materialize
  by_cases hnone : (present env).isEmpty = true
  · simp only [hnone, if_true, map_pure, Option.map_none]
  · have hsome := eq_false_of_ne_true hnone
    simp only [hsome, Bool.false_eq_true, if_false, hplaced, hencrypted, map_bind, map_pure, Option.map_some]

theorem materialize_unset (c : Connection) (env : Environment) (directory : String) :
    materialize c (env.unset passwordName) directory = materialize c env directory := by
  unfold materialize
  rw [present_unset env (by decide)]

end Certificates

/-! ## The settings -/

/-- The password has no say in which file is read. -/
theorem FileSettings.pathOf_unset (config : Option String) (env : Environment) :
    pathOf config (env.unset passwordName) = pathOf config env := by
  unfold pathOf
  rw [Environment.get?_unset_of_ne (by decide)]

namespace Arguments

/-- **The password can be put into the settings afterwards**, where no file is read: they are found without it, and the
    same is logged. -/
theorem settings_withPassword (a : Arguments) (w : Surroundings)
    (hfile : FileSettings.pathOf a.config w.environment = none) :
    a.settings w
      = (fun made => (made.1.withPassword (w.environment.getOr passwordName ""), made.2))
          <$> a.settings (w.unset passwordName) := by
  have hload (env : Environment) (h : FileSettings.pathOf a.config env = none) :
      FileSettings.load a.config env w.files = pure .empty := by
    unfold FileSettings.load
    rw [h]
  have hunset : FileSettings.pathOf a.config (w.environment.unset passwordName) = none := by
    rw [FileSettings.pathOf_unset, hfile]
  have hmerged (c : Connection) : c.merged FileSettings.empty.connection = .ok c := rfl
  unfold settings
  show (FileSettings.load a.config w.environment w.files >>= _)
    = _ <$> (FileSettings.load a.config (w.environment.unset passwordName) w.files >>= _)
  rw [hload _ hfile, hload _ hunset]
  have hlift (c : Connection) : (liftM (Except.ok c : Except Failure Connection) : Logged Connection) = pure c := rfl
  simp only [pure_bind, hmerged, hlift]
  rw [Connection.ofEnvironment_withPassword, withBrokers_withPassword, Certificates.materialize_withPassword,
    ← Certificates.materialize_unset, bind_map_left]
  simp only [map_bind, map_pure]
  refine bind_congr fun placed => ?_
  -- With certificates or without, the password is the last thing that is put in.
  cases placed with
  | none => rfl
  | some made => rfl

end Arguments

/-! ## The mask -/

namespace Dump

/-- The value of a field with the password masked. -/
def maskedValue (key : String) (v : Value) : Value :=
  if key = "sasl_plain_password" ∧ v.truthy then .text mask else v

/-- Fields with the password masked. -/
def masked (fs : Fields) : Fields := fs.map fun f => (f.1, maskedValue f.1 f.2)

/-- A dump shows a masked password like the password itself. -/
theorem dumpValue_masked (c : Connection) (key : String) (v : Value) :
    dumpValue c key (maskedValue key v) = dumpValue c key v := by
  unfold maskedValue
  by_cases h : key = "sasl_plain_password" ∧ v.truthy = true
  · have hmask : key = "sasl_plain_password" ∧ (Value.text mask).truthy = true := ⟨h.1, by decide⟩
    unfold dumpValue
    rw [if_pos h, if_pos hmask, if_pos h]
  · rw [if_neg h]

theorem ofSettings_masked (c : Connection) (fs : Fields) : ofSettings c (masked fs) = ofSettings c fs := by
  induction fs with
  | nil => rfl
  | cons f rest ih =>
    show ofSettings c ((f.1, maskedValue f.1 f.2) :: masked rest) = _
    simp only [ofSettings, dumpValue_masked, ih]

/-- The order of the fields is that of their names. -/
theorem ordered_masked (fs : Fields) : ordered (masked fs) = masked (ordered fs) := by
  have hsorted := List.map_mergeSort (f := fun f : String × Value => (f.1, maskedValue f.1 f.2)) (l := fs)
    (r := fun a b => !Value.lessChars b.1.toList a.1.toList) (s := fun a b => !Value.lessChars b.1.toList a.1.toList)
    fun _ _ _ _ => rfl
  exact hsorted.symm

theorem put_masked (fs : Fields) (key : String) (v : Value) :
    masked (fs.put key v) = (masked fs).put key (maskedValue key v) := by
  induction fs with
  | nil => rfl
  | cons f rest ih =>
    show masked (if f.1 == key then (f.1, v) :: rest else f :: Fields.put rest key v)
      = if f.1 == key then (f.1, maskedValue key v) :: masked rest
        else (f.1, maskedValue f.1 f.2) :: Fields.put (masked rest) key (maskedValue key v)
    by_cases h : (f.1 == key) = true
    · rw [if_pos h, if_pos h, ← eq_of_beq h]
      rfl
    · rw [if_neg h, if_neg h, ← ih]
      rfl

theorem update_masked (fs other : Fields) : masked (fs.update other) = (masked fs).update (masked other) := by
  induction other generalizing fs with
  | nil => rfl
  | cons f rest ih =>
    show masked ((fs.put f.1 f.2).update rest) = ((masked fs).put f.1 (maskedValue f.1 f.2)).update (masked rest)
    rw [ih, put_masked]

/-- What is told for security, with the mask, is the same for every password that is not empty. -/
theorem securityOf_masked (loader : TlsLoader) (c : Connection) {password other : String} (h : password ≠ "")
    (hother : other ≠ "") :
    (Connection.securityOf loader (c.withPassword password)).map masked
      = (Connection.securityOf loader (c.withPassword other)).map masked := by
  have hmask {word : String} (hword : word ≠ "") : maskedValue "sasl_plain_password" (.text word) = .text mask :=
    if_pos ⟨rfl, bne_iff_ne.mpr hword⟩
  have hfields (tls login : Bool) :
      masked ((c.withPassword password).securityFields tls login)
        = masked ((c.withPassword other).securityFields tls login) := by
    cases login with
    | false => rfl
    | true =>
      simp only [masked, Connection.securityFields, Connection.withPassword, if_true, List.map_cons, List.map_append,
        hmask h, hmask hother]
  -- Protocol and certificates are the same for both, so both stop at the same step or go on to the fields.
  have hsecure : (Connection.secure loader (c.withPassword password)).map masked
      = (Connection.secure loader (c.withPassword other)).map masked := by
    show (Connection.asksForTls c.protocol >>= _).map masked = (Connection.asksForTls c.protocol >>= _).map masked
    cases Connection.asksForTls c.protocol with
    | error f => rfl
    | ok tls =>
      show (Connection.loadIf loader c.tlsFiles tls >>= _).map masked
        = (Connection.loadIf loader c.tlsFiles tls >>= _).map masked
      cases Connection.loadIf loader c.tlsFiles tls with
      | error f => rfl
      | ok _ =>
        show (Connection.asksForLogin c.protocol >>= _).map masked
          = (Connection.asksForLogin c.protocol >>= _).map masked
        cases Connection.asksForLogin c.protocol with
        | error f => rfl
        | ok login => exact congrArg Except.ok (hfields tls login)
  rw [Connection.securityOf_eq, Connection.securityOf_eq]
  show (if c.protocol.same (.text "PLAINTEXT") = true then Except.ok [] else _).map masked
    = (if c.protocol.same (.text "PLAINTEXT") = true then Except.ok [] else _).map masked
  by_cases hplain : c.protocol.same (.text "PLAINTEXT") = true
  · rw [if_pos hplain, if_pos hplain]
  · rw [if_neg hplain, if_neg hplain, hsecure]

theorem consumerSettings_masked (loader : TlsLoader) (c : Connection) (properties : Fields) {password other : String}
    (h : password ≠ "") (hother : other ≠ "") :
    (Connection.consumerSettings loader (c.withPassword password) properties).map masked
      = (Connection.consumerSettings loader (c.withPassword other) properties).map masked := by
  have hbase : Connection.baseSettings (c.withPassword password) properties
      = Connection.baseSettings (c.withPassword other) properties := rfl
  have hmap (security : Except Failure Fields) (front : Fields) :
      (security.map fun told => front.update told).map masked
        = (security.map masked).map fun told => (masked front).update told := by
    cases security with
    | error f => rfl
    | ok told => exact congrArg Except.ok (update_masked front told)
  unfold Connection.consumerSettings
  rw [hbase, hmap, hmap, securityOf_masked loader c h hother]

/-- A dump is made of what is told with the password masked. -/
theorem ofRun_eq (loader : TlsLoader) (s : Settings) :
    ofRun loader s
      = match (Connection.consumerSettings loader s.connection s.properties).map masked with
        | .ok told => ofSettings s.connection (ordered told)
        | .error f => ⟨"", some f⟩ := by
  unfold ofRun
  cases Connection.consumerSettings loader s.connection s.properties with
  | error f => rfl
  | ok told =>
    show ofSettings s.connection (ordered told) = ofSettings s.connection (ordered (masked told))
    rw [ordered_masked, ofSettings_masked]

/-- Apart from the password, a dump reads of the connection the files of its certificates only. -/
theorem ofSettings_withPassword (c : Connection) (password : String) (fs : Fields) :
    ofSettings (c.withPassword password) fs = ofSettings c fs := by
  induction fs with
  | nil => rfl
  | cons f rest ih =>
    have hvalue : dumpValue (c.withPassword password) f.1 f.2 = dumpValue c f.1 f.2 := rfl
    unfold ofSettings
    rw [hvalue, ih]

/-- **With the mask one password is as good as another**, as long as neither is empty. -/
theorem ofRun_withPassword (loader : TlsLoader) (s : Settings) {password other : String} (h : password ≠ "")
    (hother : other ≠ "") : ofRun loader (s.withPassword password) = ofRun loader (s.withPassword other) := by
  have htold := consumerSettings_masked loader s.connection s.properties h hother
  rw [ofRun_eq, ofRun_eq]
  show (match (Connection.consumerSettings loader (s.connection.withPassword password) s.properties).map masked with
      | .ok told => ofSettings (s.connection.withPassword password) (ordered told)
      | .error f => ⟨"", some f⟩)
    = match (Connection.consumerSettings loader (s.connection.withPassword other) s.properties).map masked with
      | .ok told => ofSettings (s.connection.withPassword other) (ordered told)
      | .error f => ⟨"", some f⟩
  rw [htold]
  simp only [ofSettings_withPassword]

end Dump

/-! ## The law -/

namespace Command

/-- A plan that dumps is the same for two environments that differ in the password only. -/
theorem ofArguments_conceals {a : Arguments} {w : Surroundings} {environment : Environment}
    (hsame : environment.unset passwordName = w.environment.unset passwordName)
    (hw : w.environment.getOr passwordName "" ≠ "") (hother : environment.getOr passwordName "" ≠ "")
    (hdump : Plan.asksForDump a = true) (hfile : FileSettings.pathOf a.config w.environment = none)
    (hfile' : FileSettings.pathOf a.config environment = none) :
    Plan.ofArguments a { w with environment := environment } = Plan.ofArguments a w := by
  have hunset : Surroundings.unset { w with environment := environment } passwordName = w.unset passwordName := by
    unfold Surroundings.unset
    rw [hsame]
  unfold Plan.ofArguments
  by_cases hlist : Plan.asksForList a = true
  · simp only [hlist, if_true]
  · simp only [hlist, hdump, if_true]
    rw [a.settings_withPassword w hfile, a.settings_withPassword { w with environment := environment } hfile', hunset,
      bind_map_left, bind_map_left]
    refine bind_congr fun made => ?_
    show (pure (Plan.dump (.ofRun w.loader _), made.2) : Logged _) = pure (Plan.dump (.ofRun w.loader _), made.2)
    rw [Dump.ofRun_withPassword w.loader made.1 hother hw]

/-- Once a plan is made, the environment is not looked at again. -/
theorem carryOut_environment {σ : Type} (clientFor : Settings → Client σ) (client : σ) (w : Surroundings)
    (environment : Environment) (fuel : Nat) (after : Aftermath) (p : Plan) :
    carryOut clientFor client { w with environment := environment } fuel after p
      = carryOut clientFor client w fuel after p := by
  cases p with
  | list => rfl
  | dump d => rfl
  | consume s => rfl

variable {σ : Type}

/-- **A dump conceals the password**: two commands that are asked for a dump and read no file leave the same behind, to
    the last log record, if their environments differ only in the password and neither password is empty. -/
theorem run_conceals_password (clientFor : Settings → Client σ) (client : σ) (w : Surroundings)
    {environment : Environment} (fuel : Nat) (texts : List String)
    (hsame : environment.unset passwordName = w.environment.unset passwordName)
    (hw : w.environment.getOr passwordName "" ≠ "") (hother : environment.getOr passwordName "" ≠ "")
    (hdotfile : ∀ bytes, w.files.lookup Environment.dotfileName ≠ .file bytes)
    (hasked : ∀ a, Arguments.ofList texts = .ok a →
      Plan.asksForDump a = true ∧ FileSettings.pathOf a.config w.environment = none) :
    run clientFor client { w with environment := environment } fuel texts = run clientFor client w fuel texts := by
  have hbound (env : Environment) : env.withDotfile w.files = .ok (env, []) := by
    unfold Environment.withDotfile
    split
    · rename_i bytes hfound
      exact absurd hfound (hdotfile bytes)
    · rfl
  unfold run
  rw [hbound, hbound]
  cases hread : Arguments.ofList texts with
  | error d => rfl
  | ok a =>
    obtain ⟨hdump, hfile⟩ := hasked a hread
    have hfile' : FileSettings.pathOf a.config environment = none := by
      rw [← FileSettings.pathOf_unset, hsame, FileSettings.pathOf_unset, hfile]
    -- All that a run asks of its surroundings besides the plan is the same file store, time, random bytes and clock.
    have hplan := ofArguments_conceals hsame hw hother hdump hfile hfile'
    show runWith clientFor client { w with environment := environment } fuel [] a
      = runWith clientFor client w fuel [] a
    have hlog : logFileFailure? a { w with environment := environment } = logFileFailure? a w := rfl
    have hoptions : setupOptions a { w with environment := environment } = setupOptions a w := rfl
    unfold runWith
    simp only [hlog, hoptions, hplan, carryOut_environment]

/-- Two passwords, one at the front of the environment and one at its end, and a dump that is made. -/
theorem run_conceals_password_of_script :
    let login : Environment := [("KAFKA_SECURITY_PROTOCOL", "SASL_PLAINTEXT"), ("KAFKA_SASL_USERNAME", "me")]
    let w : Surroundings := .holding ((passwordName, "one") :: login) []
    let environment : Environment := login ++ [(passwordName, "two")]
    let script : Script := ⟨none, none, none, [], [], .absent "events", [], none, 0⟩
    let a : Arguments := { Arguments.usual with properties := ["dump"] }
    Arguments.ofList ["-X", "dump"] = .ok a
      ∧ (((Plan.ofArguments a w).result .empty).toOption.any fun made => made.1 matches .dump _) = true
      ∧ environment.getOr passwordName "" ≠ w.environment.getOr passwordName ""
      ∧ run (fun _ => Script.client) script { w with environment := environment } 0 ["-X", "dump"]
        = run (fun _ => Script.client) script w 0 ["-X", "dump"] := by
  intro login w environment script a
  have hread : Arguments.ofList ["-X", "dump"] = .ok a := by decide +kernel
  refine ⟨hread, by decide +kernel, by decide, ?_⟩
  refine run_conceals_password _ script w 0 ["-X", "dump"] (by decide) (by decide) (by decide) (fun bytes => ?_) ?_
  · show PathTarget.missing ≠ .file bytes
    exact fun h => by cases h
  · intro b hb
    obtain rfl := Except.ok.inj (hread.symm.trans hb)
    exact ⟨by decide, by decide⟩

end Command

end TopicReader
