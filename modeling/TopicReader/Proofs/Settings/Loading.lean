import TopicReader.Command

/-!
# `Proofs.Settings.Loading` — what the settings of a command line come to

Settings are found by a computation that also writes a log. Its log has no effect on what it comes to, and a part of
it that only reads the file can be told from the part that makes something of what was read. Here the settings are
given without the log and with these parts apart; everything else about settings rests on that.

## Contents
- **Steps that may fail.** What a sequence of steps comes to, by its parts.
- **Logged computations.** `Logged.result`, and `Logged.Yields`: what a computation comes to whatever its log.
- **The file.** `FileSections`, and `FileSettings.sections`: what the file says, as it says it.
- **Certificates.** `Certificates.furnish`.
- **The settings.** `Arguments.connected`, `Arguments.assembled`, and `Arguments.settings_result`; for settings that are
  made, `Arguments.settings_parts`.
-/

namespace TopicReader

variable {α β : Type}

/-! ## Steps that may fail -/

theorem ok_bind (a : α) (k : α → Except Failure β) : (Except.ok a >>= k) = k a := rfl

theorem error_bind (f : Failure) (k : α → Except Failure β) : (Except.error f >>= k) = .error f := rfl

theorem bind_eq_ok_iff {ε : Type} {x : Except ε α} {k : α → Except ε β} {b : β} :
    (x >>= k) = .ok b ↔ ∃ a, x = .ok a ∧ k a = .ok b := by
  cases x <;> simp [bind, Except.bind]

theorem bind_eq_error_iff {x : Except Failure α} {k : α → Except Failure β} {f : Failure} :
    (x >>= k) = .error f ↔ x = .error f ∨ ∃ a, x = .ok a ∧ k a = .error f := by
  cases x <;> simp [bind, Except.bind]

theorem map_eq_ok_iff {ε : Type} {x : Except ε α} {k : α → β} {b : β} :
    x.map k = .ok b ↔ ∃ a, x = .ok a ∧ k a = b := by
  cases x <;> simp [Except.map]

theorem map_eq_error_iff {x : Except Failure α} {k : α → β} {f : Failure} :
    x.map k = .error f ↔ x = .error f := by
  cases x <;> simp [Except.map]

/-- What passes a test that is decided is there. -/
theorem exists_ok_of_any {x : Except Failure α} {p : α → Bool} (h : x.toOption.any p = true) :
    ∃ a, x = .ok a ∧ p a = true := by
  cases x with
  | ok a => exact ⟨a, rfl, h⟩
  | error f => cases h

/-! ## Logged computations -/

namespace Logged

/-- What a computation comes to, given the log so far. -/
def result (x : Logged α) (j : Journal) : Except Failure α := (x.run.run j).1

/-- A computation and what follows it, with the log handed on. -/
theorem run_bind (x : Logged α) (k : α → Logged β) (j : Journal) :
    (x >>= k).run.run j
      = match x.run.run j with
        | (.ok a, next) => (k a).run.run next
        | (.error f, next) => (.error f, next) := by
  unfold ExceptT.run StateT.run
  simp only [bind, ExceptT.bind, ExceptT.mk, StateT.bind, ExceptT.bindCont]
  cases x j with
  | mk made next => cases made <;> rfl

/-- A computation comes to the same whatever its log. -/
structure Yields (x : Logged α) (r : Except Failure α) : Prop where
  result_eq : ∀ j, x.result j = r

namespace Yields

theorem pure (a : α) : Yields (Pure.pure a) (.ok a) := ⟨fun _ => rfl⟩

theorem throw (f : Failure) : Yields (throw f : Logged α) (.error f) := ⟨fun _ => rfl⟩

theorem lift (r : Except Failure α) : Yields (liftM r : Logged α) r := ⟨fun _ => rfl⟩

theorem write (level : Level) (origin message : String) (fields : Fields) :
    Yields (Logged.write level origin message fields) (.ok ()) := ⟨fun _ => rfl⟩

theorem bind {x : Logged α} {r : Except Failure α} {k : α → Logged β} {g : α → Except Failure β}
    (h : Yields x r) (hk : ∀ a, Yields (k a) (g a)) : Yields (x >>= k) (r >>= g) := by
  refine ⟨fun j => ?_⟩
  have hx : (x.run.run j).1 = r := h.result_eq j
  unfold result
  rw [run_bind]
  cases hrun : x.run.run j with
  | mk made next =>
    rw [hrun] at hx
    subst hx
    cases made with
    | ok a => exact (hk a).result_eq next
    | error f => rfl

/-- What is logged at the start does not matter. -/
theorem after_write {x : Logged α} {r : Except Failure α} (h : Yields x r) (level : Level)
    (origin message : String) (fields : Fields) :
    Yields (do Logged.write level origin message fields; x) r :=
  bind (write level origin message fields) fun _ => h

/-- What is logged at the end does not matter. -/
theorem before_write {x : Logged α} {r : Except Failure α} (h : Yields x r) (level : Level)
    (origin message : String) (fields : α → Fields) :
    Yields (do
      let a ← x
      Logged.write level origin message (fields a)
      return a) r := by
  have hboth := bind h fun a => after_write (pure a) level origin message (fields a)
  rwa [show (r >>= fun a => .ok a) = r from bind_pure r] at hboth

end Yields

end Logged

/-! ## The file -/

/-- What a file says of the connection and of the properties. -/
structure FileSections where
  connection : Mapping
  properties : Mapping
deriving Repr, Inhabited

namespace FileSettings

/-- What a document says, as it says it. -/
def sectionsOf (path : String) (v : Value) : Except Failure FileSections := do
  let kafka ← kafkaSection path v
  let connection ← pairsOf (← sectionOf kafka "connection")
  let properties ← entriesOf (← sectionOf kafka "consumer")
  return ⟨connection, properties⟩

/-- The value that the file holds. -/
def valueAt (files : FileStore) (env : Environment) (path : String) : Except Failure Value := do
  let v ← (← documentAt files path).finite
  return v.expand env

/-- What the file says, as it says it; nothing if no file is named. -/
def sections (path : Option String) (env : Environment) (files : FileStore) : Except Failure FileSections :=
  match pathOf path env with
  | none => .ok ⟨[], []⟩
  | some p =>
    match files.lookup p with
    | .missing => .error (.misconfigured (.fileMissing p))
    | _ => valueAt files env p >>= sectionsOf p

/-- The settings that sections hold. -/
def ofSections (s : FileSections) : Except Failure FileSettings := do
  let properties ← propertiesOf [] s.properties
  return ⟨s.connection, properties⟩

theorem ofDocument_eq (path : String) (v : Value) : ofDocument path v = sectionsOf path v >>= ofSections := by
  simp only [ofDocument, sectionsOf, ofSections, bind_assoc, pure_bind]

/-- Reading a file that is there: what it says is logged, and nothing else is made of it. -/
theorem read_yields (files : FileStore) (env : Environment) (p : String) :
    Logged.Yields
      (do
        Logged.write Level.debug origin ("Loading configuration from file: " ++ p) []
        let v ← (← documentAt files p).finite
        let s ← ofDocument p (v.expand env)
        Logged.write Level.debug origin "Configuration loaded"
          [("bootstrap_servers", (s.connection.getText? "bootstrap_servers").getD .null)]
        return s)
      ((valueAt files env p >>= sectionsOf p) >>= ofSections) := by
  simp only [valueAt, bind_assoc, pure_bind, ← ofDocument_eq]
  refine Logged.Yields.after_write ?_ _ _ _ _
  refine Logged.Yields.bind (.lift _) fun d => Logged.Yields.bind (.lift _) fun v => ?_
  exact Logged.Yields.before_write (.lift _) _ _ _ _

theorem load_yields (path : Option String) (env : Environment) (files : FileStore) :
    Logged.Yields (load path env files) (sections path env files >>= ofSections) := by
  unfold load sections
  cases pathOf path env with
  | none => exact .pure _
  | some p =>
    dsimp only
    cases hfound : files.lookup p with
    | missing => exact .throw _
    | unnameable =>
      have hlong : valueAt files env p = .error (longName p) := by
        simp only [valueAt, documentAt, readDocument, hfound]
        rfl
      rw [hlong]
      exact .throw _
    | directory => exact read_yields files env p
    | file bytes => exact read_yields files env p

end FileSettings

/-! ## Certificates -/

namespace Certificates

/-- A connection with the certificates of the environment, and the files that were written for it. -/
def furnish (c : Connection) (env : Environment) (directory : String) : Connection × List WrittenFile :=
  let items := present env
  if items.isEmpty then (c, [])
  else
    let (placed, files) := items.foldl (place (Path.normalize directory)) (c, [])
    (encrypted placed, files)

theorem furnish_of_absent {env : Environment} (h : present env = []) (c : Connection) (directory : String) :
    furnish c env directory = (c, []) := by
  unfold furnish
  rw [h]
  rfl

/-- What the environment holds for a connection, and what follows it. -/
theorem materialize_yields {k : Connection × List WrittenFile → Logged α}
    {g : Connection × List WrittenFile → Except Failure α} (c : Connection) (env : Environment)
    (directory : String) (h : ∀ p, Logged.Yields (k p) (g p)) :
    Logged.Yields (materialize c env directory >>= fun placed => k (placed.getD (c, [])))
      (g (furnish c env directory)) := by
  unfold materialize furnish
  by_cases hnone : (present env).isEmpty
  · simp only [hnone, if_true, pure_bind]
    exact h (c, [])
  · simp only [hnone, Bool.false_eq_true, if_false, bind_assoc, pure_bind]
    exact Logged.Yields.after_write (h _) _ _ _ _

end Certificates

/-! ## The settings -/

namespace Arguments

/-- The connection of a run, given what the file says of it, and the files that are written for it. -/
def connected (a : Arguments) (w : Surroundings) (data : Mapping) :
    Except Failure (Connection × List WrittenFile) := do
  let merged ← (Connection.ofEnvironment w.environment).merged data
  return Certificates.furnish (a.withBrokers merged) w.environment w.temporary

/-- The settings with a connection and the properties of the file. -/
def finished (a : Arguments) (fromFile : Fields) (made : Connection × List WrittenFile) :
    Except Failure (Settings × List WrittenFile) := do
  let properties ← withProperties fromFile a.properties
  made.1.validate
  return (a.settingsWith made.1 properties, made.2)

/-- The settings, given what the file says. -/
def assembled (a : Arguments) (w : Surroundings) (s : FileSections) :
    Except Failure (Settings × List WrittenFile) := do
  let fromFile ← FileSettings.propertiesOf [] s.properties
  a.finished fromFile (← a.connected w s.connection)

theorem finished_yields (a : Arguments) (fromFile : Fields) (made : Connection × List WrittenFile) :
    Logged.Yields
      (do
        let properties ← withProperties fromFile a.properties
        made.1.validate
        return (a.settingsWith made.1 properties, made.2))
      (a.finished fromFile made) :=
  Logged.Yields.bind (.lift _) fun _ => Logged.Yields.bind (.lift _) fun _ => .pure _

/-- **What the settings come to**, whatever the log: the file is read, and the rest is made of what it says. -/
theorem settings_result (a : Arguments) (w : Surroundings) (j : Journal) :
    (a.settings w).result j
      = FileSettings.sections a.config w.environment w.files >>= a.assembled w := by
  have hall : Logged.Yields (a.settings w)
      ((FileSettings.sections a.config w.environment w.files >>= FileSettings.ofSections) >>= fun file =>
        (Connection.ofEnvironment w.environment).merged file.connection >>= fun merged =>
          a.finished file.properties
            (Certificates.furnish (a.withBrokers merged) w.environment w.temporary)) := by
    unfold settings
    refine Logged.Yields.bind (FileSettings.load_yields _ _ _) fun file => ?_
    refine Logged.Yields.bind (.lift _) fun merged => ?_
    exact Certificates.materialize_yields _ _ _ (a.finished_yields file.properties)
  rw [hall.result_eq j]
  simp only [bind_assoc, pure_bind, FileSettings.ofSections]
  congr 1
  funext s
  simp only [assembled, connected, bind_assoc, pure_bind]

/-- **What must have happened** for settings to be made: every step on the way to them succeeded. -/
theorem settings_parts {a : Arguments} {w : Surroundings} {j : Journal} {s : Settings} {written : List WrittenFile}
    (h : (a.settings w).result j = .ok (s, written)) :
    ∃ parts fromFile c properties,
      FileSettings.sections a.config w.environment w.files = .ok parts
        ∧ FileSettings.propertiesOf [] parts.properties = .ok fromFile
        ∧ a.connected w parts.connection = .ok (c, written)
        ∧ withProperties fromFile a.properties = .ok properties
        ∧ c.validate = .ok ()
        ∧ s = a.settingsWith c properties := by
  rw [settings_result] at h
  obtain ⟨parts, hparts, hassembled⟩ := bind_eq_ok_iff.mp h
  obtain ⟨fromFile, hentries, hrest⟩ := bind_eq_ok_iff.mp hassembled
  obtain ⟨made, hmade, hfinished⟩ := bind_eq_ok_iff.mp hrest
  obtain ⟨properties, harguments, hchecked⟩ := bind_eq_ok_iff.mp hfinished
  obtain ⟨_, hvalid, hsettings⟩ := bind_eq_ok_iff.mp hchecked
  cases hsettings
  exact ⟨parts, fromFile, made.1, properties, hparts, hentries, hmade, harguments, hvalid, rfl⟩

end Arguments

/-- Surroundings with some variables and some files, and nothing else of note. -/
def Surroundings.holding (bindings files : List (String × String)) : Surroundings :=
  { environment := bindings, files := ⟨files.map fun f => (f.1, Text.Utf8.encode f.2), 485⟩,
    temporary := "certificates", loader := fun _ => .ok (), now := default, random := [], clock := default,
    interrupted := false }

end TopicReader
