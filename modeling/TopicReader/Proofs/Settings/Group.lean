import TopicReader.Proofs.Settings.Clients
import TopicReader.Proofs.Settings.Escapes
import TopicReader.Proofs.Settings.Handover

/-!
# `Proofs.Settings.Group` — whether a run has a consumer group

Whether there is a group is asked in two places. The check of the settings asks, where stored offsets are wanted,
whether the group's name counts; what the consumer is told asks, for committing, whether there is a name at all. In
front of both stands the reading of properties, which makes a text of whatever was supplied for the group. Here both
answers are given by what was supplied. They agree, and with what was meant, exactly where this names a group: an
empty text is a group for the consumer only, and null is the group `None` for both.

## Contents
- **What was supplied.** `Property.supplied?`, and `Arguments.settings_supplied`: a property is what was supplied for
  it, read as its kind.
- **The two answers.** `Settings.validate_stored_iff` and `Connection.consumerSettings_group`.
- **The law.** `Fields.JoinsGroup`, `Value.NamesGroup`, and `Arguments.group_decided`.
-/

namespace TopicReader

open TopicReader.Text

/-! ## What was supplied -/

namespace Property

/-- An entry of the file under its key, with its value as the file has it. -/
def rawEntry (e : Value × Value) : String × Value := (normalize (entryName e), e.2)

/-- An argument under its key, with its value as the command line has it. -/
def rawArgument? (argument : String) : Option (String × Value) :=
  (halves? argument).map fun (name, value) => (normalize name, .text value)

/-- **What was supplied for a key**: the value of the last argument for it, else that of the last entry for it. -/
def supplied? (entries : Mapping) (arguments : List String) (key : String) : Option Value :=
  (Fields.last? (arguments.filterMap rawArgument?) key).or (Fields.last? (entries.map rawEntry) key)

theorem assigned?_eq (argument : String) :
    assigned? argument = (rawArgument? argument).map fun f => (f.1, coerced f.1 f.2) := by
  unfold assigned? rawArgument?
  cases halves? argument <;> rfl

/-- What is set under a key is what was supplied for it, read as the key asks. -/
theorem supplied?_coerced (entries : Mapping) (arguments : List String) (key : String) :
    (Fields.last? (arguments.filterMap assigned?) key).or (Fields.last? (entries.map ofEntry) key)
      = (supplied? entries arguments key).map (coerced key) := by
  -- On either side the keys are the same, and only the values are read.
  have harguments : arguments.filterMap assigned?
      = (arguments.filterMap rawArgument?).map fun f => (f.1, coerced f.1 f.2) := by
    rw [List.map_filterMap]
    exact List.filterMap_congr fun p _ => assigned?_eq p
  have hentries : entries.map ofEntry = (entries.map rawEntry).map fun f => (f.1, coerced f.1 f.2) := by
    rw [List.map_map]
    rfl
  rw [harguments, hentries, Fields.last?_map, Fields.last?_map]
  unfold supplied?
  cases Fields.last? (arguments.filterMap rawArgument?) key <;> rfl

theorem eq_coerced_of_coerce {key : String} {v made : Value} (h : coerce key v = .ok made) : made = coerced key v := by
  unfold coerce at h
  unfold coerced
  by_cases hkey : texts.contains key = true
  · rw [if_pos hkey] at h ⊢
    obtain ⟨shown, hshown, rfl⟩ := map_eq_ok_iff.mp h
    cases hlong : v.holdsLong with
    | true =>
      rw [showChecked_of_long hlong] at hshown
      cases hshown
    | false =>
      rw [Value.showChecked_eq hlong] at hshown
      cases hshown
      rfl
  · rw [if_neg hkey] at h ⊢
    cases v <;> exact (Except.ok.inj h).symm

theorem eq_ofEntry_of_checked {e : Value × Value} {p : String × Value} (h : ofEntryChecked e = .ok p) :
    p = ofEntry e := by
  obtain ⟨hwritable, haccepts⟩ := (ofEntryChecked_ok_iff e).mp ⟨p, h⟩
  have hname : e.1.holdsLong = false := eq_false_of_ne_true fun hlong => hwritable (.inl hlong)
  rw [ofEntryChecked_of_name hname] at h
  unfold Accepts at haccepts
  simp only [ofPair, haccepts, if_true] at h
  obtain ⟨made, hmade, rfl⟩ := map_eq_ok_iff.mp h
  rw [eq_coerced_of_coerce hmade]
  rfl

end Property

/-- Entries that are folded at all set what they say, in order. -/
theorem FileSettings.propertiesOf_eq_update {entries : Mapping} {acc fs : Fields}
    (h : propertiesOf acc entries = .ok fs) : fs = acc.update (entries.map Property.ofEntry) := by
  induction entries generalizing acc with
  | nil =>
    cases h
    rfl
  | cons e rest ih =>
    rw [propertiesOf_cons_checked] at h
    obtain ⟨p, hp, hrest⟩ := bind_eq_ok_iff.mp h
    rw [ih hrest, Property.eq_ofEntry_of_checked hp]
    rfl

namespace Arguments

/-- Arguments that are folded at all set what they say, in order. -/
theorem withProperties_eq_update {a : Arguments} {fs made : Fields} (h : withProperties fs a.properties = .ok made) :
    made = fs.update (a.given.filterMap Property.assigned?) := by
  rw [← withProperties_filter] at h
  by_cases hall : ∀ p ∈ a.given, Property.AcceptsArgument p
  · have hmade := withProperties_of_accepts a.given_not_command hall fs
    exact Except.ok.inj (h.symm.trans hmade)
  · have hsome : ∃ p ∈ a.given, ¬ Property.AcceptsArgument p := by
      simpa using hall
    obtain ⟨m, hm⟩ := withProperties_of_not_accepts a.given_not_command hsome fs
    cases h.symm.trans hm

/-- **A property of the settings** is what was supplied for it, read as its key asks. -/
theorem settings_supplied {a : Arguments} {w : Surroundings} {j : Journal} {data entries : Mapping} {s : Settings}
    {written : List WrittenFile}
    (hfile : FileSettings.sections a.config w.environment w.files = .ok ⟨data, entries⟩)
    (h : (a.settings w).result j = .ok (s, written)) (key : String) :
    s.properties.get? key = (Property.supplied? entries a.given key).map (Property.coerced key) := by
  obtain ⟨parts, fromFile, _, properties, hparts, hentries, _, harguments, _, rfl⟩ := settings_parts h
  obtain rfl : parts = ⟨data, entries⟩ := Except.ok.inj (hparts.symm.trans hfile)
  show properties.get? key = _
  rw [withProperties_eq_update harguments, FileSettings.propertiesOf_eq_update hentries, Fields.get?_update,
    Fields.get?_update, ← Property.supplied?_coerced]
  congr 1
  exact Option.or_none

end Arguments

/-! ## The two answers -/

/-- Asking for stored offsets makes a difference to the check exactly where no group counts. -/
theorem Settings.validate_stored_iff (s : Settings) {stored other : String} (hstored : trimText stored = "stored")
    (hother : trimText other ≠ "stored") :
    ({ s with offset := stored } : Settings).validate = .ok ()
      ↔ ({ s with offset := other } : Settings).validate = .ok () ∧ s.groupId.truthy = true := by
  rw [validate_ok_iff, validate_ok_iff]
  constructor
  · rintro ⟨hbefore, hgroup, hafter⟩
    exact ⟨⟨hbefore, fun h => absurd h hother, hafter⟩, hgroup hstored⟩
  · rintro ⟨⟨hbefore, _, hafter⟩, hgroup⟩
    exact ⟨hbefore, fun _ => hgroup, hafter⟩

namespace Connection

/-- The consumer is told the group of the properties, and to commit where there is one and nothing else is set. -/
theorem consumerSettings_group {c : Connection} {loader : TlsLoader} {properties told : Fields}
    (htold : consumerSettings loader c properties = .ok told) (hnames : properties.names.Nodup)
    (hunset : properties.get? "enable_auto_commit" = none) :
    told.get? "group_id" = some ((properties.get? "group_id").getD .null)
      ∧ told.get? "enable_auto_commit" = some (.bool (!((properties.get? "group_id").getD .null).isNull)) := by
  have hgroupKey : "group_id" ∉ securityKeys := by decide
  have hcommitKey : "enable_auto_commit" ∉ securityKeys := by decide
  rw [consumerSettings_get? htold hgroupKey, consumerSettings_get? htold hcommitKey, Fields.last?_eq_get? hnames,
    Fields.last?_eq_get? hnames, hunset]
  constructor
  · cases hgroup : properties.get? "group_id" with
    | some v => rfl
    | none =>
      show some ((properties.get? "group_id").getD .null) = _
      rw [hgroup]
  · rfl

end Connection

/-! ## The law -/

/-- **Told to join a group**: a group is named, and consumed offsets are committed for it. -/
def Fields.JoinsGroup (told : Fields) : Prop :=
  (∃ v, told.get? "group_id" = some v ∧ v.isNull = false) ∧ told.get? "enable_auto_commit" = some (.bool true)

/-- Who commits exactly where a group is named joins exactly where one is. -/
theorem Fields.joinsGroup_iff {told : Fields} {group : Value} (hgroup : told.get? "group_id" = some group)
    (hcommit : told.get? "enable_auto_commit" = some (.bool (!group.isNull))) :
    told.JoinsGroup ↔ group.isNull = false := by
  unfold JoinsGroup
  rw [hgroup, hcommit]
  constructor
  · rintro ⟨⟨v, hv, hnull⟩, _⟩
    rw [Option.some.inj hv]
    exact hnull
  · intro hnull
    refine ⟨⟨group, rfl, hnull⟩, ?_⟩
    rw [hnull]
    rfl

namespace Value

/-- The text of a value is never null. -/
theorem isNull_texted (v : Option Value) :
    ((v.map fun v => Value.text v.shown).getD .null).isNull = false ↔ v.isSome = true := by
  cases v <;> simp [isNull]

/-- The text of a value counts if it is not empty. -/
theorem truthy_texted (v : Option Value) :
    ((v.map fun v => Value.text v.shown).getD .null).truthy = true ↔ ∃ given, v = some given ∧ given.shown ≠ "" := by
  cases v <;> simp [truthy]

end Value

/-- **A value that names a group**: neither null nor an empty text. -/
def Value.NamesGroup (v : Value) : Prop := v.isNull = false ∧ v.shown ≠ ""

/-- Whether something was supplied, and whether its text counts, are the same question as whether it names a group
    exactly if it does name one. -/
theorem Value.answers_agree_iff (supplied : Option Value) (valid : Prop) :
    (supplied.isSome = true ↔ ∃ v, supplied = some v ∧ v.NamesGroup)
        ∧ (valid → (valid ∧ (∃ v, supplied = some v ∧ v.shown ≠ "") ↔ ∃ v, supplied = some v ∧ v.NamesGroup))
      ↔ ∀ v, supplied = some v → v.NamesGroup := by
  constructor
  · rintro ⟨hsome, _⟩ v hv
    have hsupplied : supplied.isSome = true := by
      rw [hv]
      rfl
    obtain ⟨named, hnamed, hnames⟩ := hsome.mp hsupplied
    cases hv.symm.trans hnamed
    exact hnames
  · intro hall
    constructor
    · constructor
      · intro hsupplied
        obtain ⟨v, hv⟩ := Option.isSome_iff_exists.mp hsupplied
        exact ⟨v, hv, hall v hv⟩
      · rintro ⟨v, hv, _⟩
        rw [hv]
        rfl
    · intro hvalid
      constructor
      · rintro ⟨_, v, hv, _⟩
        exact ⟨v, hv, hall v hv⟩
      · rintro ⟨v, hv, hnames⟩
        exact ⟨hvalid, v, hv, hnames.2⟩

namespace Arguments

variable {a : Arguments} {w : Surroundings} {j : Journal} {data entries : Mapping} {s : Settings}
  {written : List WrittenFile}

/-- The group of the settings is the text of what was supplied for it. -/
theorem settings_group (hfile : FileSettings.sections a.config w.environment w.files = .ok ⟨data, entries⟩)
    (h : (a.settings w).result j = .ok (s, written)) :
    s.properties.get? "group_id" = (Property.supplied? entries a.given "group_id").map fun v => .text v.shown := by
  rw [settings_supplied hfile h]
  rfl

/-- **Whether there is a group is decided by what was supplied for it.** The consumer joins one exactly if anything was
    supplied, and stored offsets are accepted exactly if its text is not empty. Both answers are those for a value that
    names a group exactly if what was supplied, if anything was, names one. -/
theorem group_decided (hfile : FileSettings.sections a.config w.environment w.files = .ok ⟨data, entries⟩)
    (h : (a.settings w).result j = .ok (s, written)) (hunset : s.properties.get? "enable_auto_commit" = none)
    {loader : TlsLoader} (hloads : loader s.connection.tlsFiles = .ok ()) {stored other : String}
    (hstored : trimText stored = "stored") (hother : trimText other ≠ "stored") :
    ∃ told, Connection.consumerSettings loader s.connection s.properties = .ok told
      ∧ let supplied := Property.supplied? entries a.given "group_id"
        let valid (offset : String) : Prop := ({ s with offset := offset } : Settings).validate = .ok ()
        let named : Prop := ∃ v, supplied = some v ∧ v.NamesGroup
        (told.JoinsGroup ↔ supplied.isSome = true)
          ∧ (valid stored ↔ valid other ∧ ∃ v, supplied = some v ∧ v.shown ≠ "")
          ∧ ((told.JoinsGroup ↔ named) ∧ (valid other → (valid stored ↔ named))
              ↔ ∀ v, supplied = some v → v.NamesGroup) := by
  obtain ⟨c, properties, hvalid, _, hmade⟩ := settings_made h
  have hconnection : s.connection.validate = .ok () := by
    rw [hmade]
    exact hvalid
  have hnames : s.properties.names.Nodup := (settings_sound h).spellings.of_map _
  have hgroup := settings_group hfile h
  obtain ⟨told, htold⟩ := Connection.exists_consumerSettings hconnection hloads s.properties
  obtain ⟨htoldGroup, htoldCommit⟩ := Connection.consumerSettings_group htold hnames hunset
  refine ⟨told, htold, ?_⟩
  intro supplied valid named
  have hjoins : told.JoinsGroup ↔ supplied.isSome = true := by
    rw [Fields.joinsGroup_iff htoldGroup htoldCommit, hgroup]
    exact Value.isNull_texted supplied
  have haccepts : valid stored ↔ valid other ∧ ∃ v, supplied = some v ∧ v.shown ≠ "" := by
    rw [← Value.truthy_texted supplied, ← hgroup]
    exact s.validate_stored_iff hstored hother
  refine ⟨hjoins, haccepts, ?_⟩
  -- Settings, file and consumer are gone from the question; what was supplied is left.
  rw [hjoins, haccepts]
  exact Value.answers_agree_iff supplied (valid other)

/-- The name of an entry that says null. -/
def nulled? : Value × Value → Option String
  | (.text name, .null) => some name
  | _ => none

theorem eq_of_nulled? {entries : Mapping} {name : String} (h : entries.map nulled? = [some name]) :
    entries = [(.text name, .null)] := by
  obtain ⟨e, rest, rfl, he, hrest⟩ := List.map_eq_cons_iff.mp h
  obtain rfl := List.map_eq_nil_iff.mp hrest
  unfold nulled? at he
  split at he
  · cases he
    rfl
  · cases he

/-- A null in the file is supplied and names no group: the consumer joins one all the same, and stored offsets are
    accepted. -/
theorem group_decided_for_null :
    let a : Arguments := { Arguments.usual with topic := some "events" }
    let w : Surroundings :=
      .holding [("KFC_CONFIG", "c.yaml")] [("c.yaml", "kafka:\n  consumer:\n    group.id: null\n")]
    ∃ s written told, (a.settings w).result .empty = .ok (s, written)
      ∧ Connection.consumerSettings w.loader s.connection s.properties = .ok told
      ∧ ¬ Value.null.NamesGroup
      ∧ told.JoinsGroup
      ∧ ({ s with offset := "stored" } : Settings).validate = .ok () := by
  intro a w
  obtain ⟨⟨data, entries⟩, hfile, hread⟩ := exists_ok_of_any
    (x := FileSettings.sections a.config w.environment w.files)
    (p := fun sections => sections.properties.map nulled? == [some "group.id"]) (by decide +kernel)
  obtain rfl : entries = [(.text "group.id", .null)] := eq_of_nulled? (eq_of_beq hread)
  obtain ⟨⟨s, written⟩, hs, hchecked⟩ := exists_ok_of_any (x := (a.settings w).result .empty)
    (p := fun made => ({ made.1 with offset := "beginning" } : Settings).validate.toOption.any fun _ => true)
    (by decide +kernel)
  obtain ⟨_, hvalid, _⟩ := exists_ok_of_any hchecked
  have hgroup : Property.supplied? [(.text "group.id", .null)] a.given "group_id" = some .null := by
    have hany : (Property.supplied? [(.text "group.id", .null)] a.given "group_id").any Value.isNull = true := by
      decide +kernel
    obtain ⟨v, hv, hnull⟩ := (Option.any_eq_true _ _).mp hany
    rw [hv]
    cases v with
    | null => rfl
    | _ => cases hnull
  have hunset : s.properties.get? "enable_auto_commit" = none := by
    rw [settings_supplied hfile hs, Option.map_eq_none_iff, ← Option.isNone_iff_eq_none]
    decide +kernel
  have hloads : w.loader s.connection.tlsFiles = .ok () := rfl
  have hstored : trimText "stored" = "stored" := by decide
  have hother : trimText "beginning" ≠ "stored" := by decide
  obtain ⟨told, htold, hjoins, haccepts, _⟩ := group_decided hfile hs hunset hloads hstored hother
  rw [hgroup] at hjoins haccepts
  refine ⟨s, written, told, hs, htold, ?_, hjoins.mpr rfl, haccepts.mpr ⟨hvalid, .null, rfl, by decide⟩⟩
  rintro ⟨hnull, _⟩
  cases hnull

/-- An empty text for the group names none, and stored offsets are refused for that; the consumer is told to join it
    and to commit. -/
theorem empty_group_joined :
    let a : Arguments := { Arguments.usual with topic := some "events", properties := ["group.id="] }
    let w : Surroundings := .holding [] []
    ∃ s written told, (a.settings w).result .empty = .ok (s, written)
      ∧ s.properties.get? "enable_auto_commit" = none
      ∧ Connection.consumerSettings w.loader s.connection s.properties = .ok told
      ∧ Property.supplied? [] a.given "group_id" = some (.text "") ∧ ¬ (Value.text "").NamesGroup
      ∧ told.JoinsGroup
      ∧ ({ s with offset := "stored" } : Settings).validate = .error (.misconfigured .storedWithoutGroup) := by
  intro a w
  have hfile : FileSettings.sections a.config w.environment w.files = .ok ⟨[], []⟩ := rfl
  obtain ⟨⟨s, written⟩, hs, _⟩ := exists_ok_of_any (x := (a.settings w).result .empty) (p := fun _ => true)
    (by decide +kernel)
  have hsupplied : Property.supplied? [] a.given "group_id" = some (.text "") := by
    have hany : (Property.supplied? [] a.given "group_id").any (fun v => v.same (.text "")) = true := by
      decide +kernel
    obtain ⟨v, hv, hempty⟩ := (Option.any_eq_true _ _).mp hany
    rw [hv, Value.same_text_iff.mp hempty]
  have hunset : s.properties.get? "enable_auto_commit" = none := by
    rw [settings_supplied hfile hs, Option.map_eq_none_iff, ← Option.isNone_iff_eq_none]
    decide +kernel
  have hgroup : s.properties.get? "group_id" = some (.text "") := by
    rw [settings_group hfile hs, hsupplied]
    rfl
  obtain ⟨c, properties, hvalid, hsound, hmade⟩ := settings_made hs
  subst hmade
  have hname : properties.get? "group_id" = some (.text "") := hgroup
  have hloads : w.loader (a.settingsWith c properties).connection.tlsFiles = .ok () := rfl
  obtain ⟨told, htold⟩ := Connection.exists_consumerSettings hvalid hloads properties
  obtain ⟨htoldGroup, htoldCommit⟩ := Connection.consumerSettings_group htold (hsound.spellings.of_map _) hunset
  have hjoins := Fields.joinsGroup_iff htoldGroup htoldCommit
  have hready : ({ a.settingsWith c properties with offset := "stored" } : Settings).Ready :=
    { topic := show "events" ≠ "" by decide
      delimiter := rfl
      keyDelimiter := fun bytes h => by cases h
      properties := hsound
      connection := hvalid }
  refine ⟨_, written, told, hs, hunset, htold, hsupplied, fun h => h.2 rfl, ?_, ?_⟩
  · apply hjoins.mpr
    rw [hname]
    rfl
  · apply (hready.validate_error_iff nofun nofun).mpr
    have hstored : trimText "stored" = "stored" := by decide
    refine ⟨_, rfl, .group ?_ ?_ hstored ?_⟩
    · intro m hm
      cases hm
    · intro m hm
      cases hm
    · show ((properties.get? "group_id").getD .null).truthy = false
      rw [hname]
      rfl

end Arguments

end TopicReader
