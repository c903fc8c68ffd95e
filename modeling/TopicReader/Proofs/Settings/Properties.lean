import Mathlib.Data.List.TakeWhile
import TopicReader.Proofs.Fields
import TopicReader.Proofs.Settings.Loading

/-!
# `Proofs.Settings.Properties` — which properties a run gets

A property is set by an entry of the file or by an argument, under any spelling of its name. What is set later wins,
an argument over every entry. Here the properties of a run are given by the last argument and the last entry for each
key, and it is told when there are none because something is refused.

## Contents
- **Names and values.** `Property.coerced`, `Property.halves?`, and when an entry or an argument is accepted.
- **Folding.** What `FileSettings.propertiesOf` and `Arguments.withProperties` come to.
- **The law.** `Resolved`, and `Arguments.settings_resolves`.
-/

namespace TopicReader

open TopicReader.Text

/-! ## Names and values -/

theorem Value.showChecked_eq {v : Value} (h : v.holdsLong = false) : v.showChecked = .ok v.shown := by
  unfold showChecked
  simp only [h, Bool.false_eq_true, if_false]

namespace Property

/-- The value of a property, where it can be written out. -/
def coerced (key : String) (v : Value) : Value :=
  if texts.contains key then .text v.shown
  else
    match v with
    | .text s => coerceText s
    | v => v

theorem coerce_eq {v : Value} (h : v.holdsLong = false) (key : String) : coerce key v = .ok (coerced key v) := by
  unfold coerce coerced
  rw [Value.showChecked_eq h]
  by_cases hkey : texts.contains key = true
  · rw [if_pos hkey, if_pos hkey]
    rfl
  · rw [if_neg hkey, if_neg hkey]
    cases v <;> rfl

/-- What stands before and after the first equals sign of an argument. -/
def halves? (argument : String) : Option (String × String) :=
  if '=' ∈ argument.toList then
    some (String.ofList (argument.toList.takeWhile (· != '=')),
      String.ofList (argument.toList.dropWhile (· != '=')).tail)
  else none

/-- Cutting at a single character is cutting at the first one there is. -/
theorem cutAt_single (c : Char) (cs : List Char) :
    cutAt [c] cs = if c ∈ cs then some (cs.takeWhile (· != c), (cs.dropWhile (· != c)).tail) else none := by
  induction cs with
  | nil => rfl
  | cons d rest ih =>
    unfold cutAt
    by_cases hd : d = c
    · subst hd
      simp
    · have hne : ¬ c = d := fun h => hd h.symm
      rw [ih]
      by_cases hmem : c ∈ rest <;> simp [hd, hne, hmem]

/-- The name of an entry of the file. -/
def entryName (e : Value × Value) : String := e.1.shown

/-- What an entry of the file sets. -/
def ofEntry (e : Value × Value) : String × Value :=
  (normalize (entryName e), coerced (normalize (entryName e)) e.2)

/-- What an argument sets. -/
def assigned? (argument : String) : Option (String × Value) :=
  (halves? argument).map fun (name, value) => (normalize name, coerced (normalize name) (.text value))

/-- **A name is accepted** if its key is the key of a supported property. -/
def Accepts (name : String) : Prop := isSupported (normalize name) = true

/-- **An argument is accepted** if it has a name that is not blank and that is accepted. -/
def AcceptsArgument (argument : String) : Prop :=
  ∃ name value, halves? argument = some (name, value) ∧ (∃ c ∈ name.toList, isBlank c = false) ∧ Accepts name

instance : DecidablePred Accepts := fun name => inferInstanceAs (Decidable (isSupported (normalize name) = true))

instance : DecidablePred AcceptsArgument := fun argument =>
  match h : halves? argument with
  | none => .isFalse fun ⟨_, _, hnone, _⟩ => by
    rw [h] at hnone
    cases hnone
  | some (name, value) =>
    decidable_of_iff (name.toList.any (fun c => !isBlank c) = true ∧ Accepts name) <| by
      unfold AcceptsArgument
      simp [h]

theorem ofPair_of_accepts {name : String} {v : Value} (h : Accepts name) (hv : v.holdsLong = false) :
    ofPair name v = .ok (normalize name, coerced (normalize name) v) := by
  unfold Accepts at h
  simp only [ofPair, h, if_true, coerce_eq hv]
  rfl

theorem ofPair_of_not_accepts {name : String} (h : ¬ Accepts name) (v : Value) :
    ofPair name v = .error (.misconfigured (.unknownProperty name)) := by
  unfold Accepts at h
  simp only [ofPair, h, Bool.false_eq_true, if_false]

theorem trim_isEmpty (cs : List Char) : (trim cs).isEmpty = cs.all isBlank := by
  rw [Bool.eq_iff_iff, List.all_eq_true]
  unfold trim trimRight trimLeft
  rw [List.isEmpty_iff, List.reverse_eq_nil_iff, List.dropWhile_eq_nil_iff]
  simp only [List.mem_reverse]
  constructor
  · intro h
    induction cs with
    | nil => simp
    | cons c rest ih =>
      by_cases hc : isBlank c = true
      · rw [List.dropWhile_cons_of_pos hc] at h
        exact List.forall_mem_cons.mpr ⟨hc, ih h⟩
      · rw [List.dropWhile_cons_of_neg hc] at h
        exact h
  · intro h c hc
    exact h c ((List.dropWhile_suffix _).subset hc)

/-- An argument, by its halves. -/
theorem ofArgument_eq (argument : String) :
    ofArgument argument
      = match halves? argument with
        | some (name, value) =>
          if name.toList.all isBlank then .error (.misconfigured (.propertyShape argument))
          else ofPair name (.text value)
        | none => .error (.misconfigured (.propertyShape argument)) := by
  unfold ofArgument halves?
  rw [cutAt_single]
  by_cases h : '=' ∈ argument.toList
  · simp only [h, if_true, trim_isEmpty, String.toList_ofList]
  · simp only [h, if_false]

theorem ofArgument_of_accepts {argument : String} (h : AcceptsArgument argument) :
    ∃ p, assigned? argument = some p ∧ isSupported p.1 = true ∧ ofArgument argument = .ok p := by
  obtain ⟨name, value, hhalves, ⟨c, hc, hblank⟩, hname⟩ := h
  refine ⟨(normalize name, coerced (normalize name) (.text value)), ?_, hname, ?_⟩
  · rw [assigned?, hhalves]
    rfl
  · have hnot : ¬ name.toList.all isBlank = true := fun hall => by
      rw [List.all_eq_true.mp hall c hc] at hblank
      cases hblank
    rw [ofArgument_eq, hhalves]
    dsimp only
    rw [if_neg hnot, ofPair_of_accepts hname rfl]

theorem ofArgument_of_not_accepts {argument : String} (h : ¬ AcceptsArgument argument) :
    ∃ m, ofArgument argument = .error (.misconfigured m) := by
  rw [ofArgument_eq]
  cases hhalves : halves? argument with
  | none => exact ⟨_, rfl⟩
  | some half =>
    obtain ⟨name, value⟩ := half
    dsimp only
    by_cases hblank : name.toList.all isBlank = true
    · exact ⟨_, if_pos hblank⟩
    · have hname : ¬ Accepts name := fun hname =>
        h ⟨name, value, hhalves, by simpa using hblank, hname⟩
      rw [if_neg hblank]
      exact ⟨_, ofPair_of_not_accepts hname _⟩

/-- The keys in the table are spelled as names are normalised. -/
theorem normalize_supported : ∀ p ∈ supported, normalize p.1 = p.1 := by
  decide +kernel

theorem normalize_of_isSupported {key : String} (h : isSupported key = true) : normalize key = key := by
  obtain ⟨p, hp, hkey⟩ := List.any_eq_true.mp h
  rw [← eq_of_beq hkey]
  exact normalize_supported p hp

/-- **Sound properties**: their names are keys of supported properties, and no two of them spell the same one. -/
structure Sound (fs : Fields) : Prop where
  supported : ∀ key ∈ fs.names, isSupported key = true
  spellings : (fs.names.map normalize).Nodup

namespace Sound

theorem nil : Sound [] := ⟨by simp [Fields.names], by simp [Fields.names]⟩

theorem put {fs : Fields} (h : Sound fs) {key : String} (hkey : isSupported key = true) (v : Value) :
    Sound (fs.put key v) := by
  have hsupported : ∀ k ∈ (fs.put key v).names, isSupported k = true := fun k hk => by
    rcases Fields.mem_names_put hk with rfl | hk
    · exact hkey
    · exact h.supported k hk
  have hsame {gs : Fields} (hgs : ∀ k ∈ gs.names, isSupported k = true) : gs.names.map normalize = gs.names :=
    (List.map_congr_left fun k hk => normalize_of_isSupported (hgs k hk)).trans (List.map_id _)
  refine ⟨hsupported, ?_⟩
  rw [hsame hsupported]
  refine Fields.nodup_names_put ?_ key v
  rw [← hsame h.supported]
  exact h.spellings

/-- The check of the names can never refuse sound properties. -/
theorem checks {fs : Fields} (h : Sound fs) : Settings.checkProperties fs = .ok () := by
  have hall := h.supported
  clear h
  induction fs with
  | nil => rfl
  | cons f rest ih =>
    unfold Settings.checkProperties
    rw [if_pos (hall f.1 List.mem_cons_self)]
    exact ih fun key hkey => hall key (List.mem_cons_of_mem _ hkey)

end Sound

theorem isSupported_of_ofPair {name : String} {v : Value} {p : String × Value} (h : ofPair name v = .ok p) :
    isSupported p.1 = true := by
  by_cases hname : Accepts name
  · unfold Accepts at hname
    simp only [ofPair, hname, if_true, map_eq_ok_iff] at h
    obtain ⟨w, _, rfl⟩ := h
    exact hname
  · rw [ofPair_of_not_accepts hname] at h
    cases h

theorem isSupported_of_ofArgument {argument : String} {p : String × Value} (h : ofArgument argument = .ok p) :
    isSupported p.1 = true := by
  by_cases harg : AcceptsArgument argument
  · obtain ⟨q, _, hq, hok⟩ := ofArgument_of_accepts harg
    rw [hok] at h
    cases h
    exact hq
  · obtain ⟨m, hm⟩ := ofArgument_of_not_accepts harg
    rw [hm] at h
    cases h

end Property

/-! ## Folding -/

/-- Can every integer of some entries be written out? -/
def Mapping.IsWritable (entries : Mapping) : Prop :=
  ∀ e ∈ entries, e.1.holdsLong = false ∧ e.2.holdsLong = false

instance : DecidablePred Mapping.IsWritable := fun entries =>
  inferInstanceAs (Decidable (∀ e ∈ entries, e.1.holdsLong = false ∧ e.2.holdsLong = false))

namespace FileSettings

theorem propertiesOf_cons (acc : Fields) (e : Value × Value) (rest : Mapping) :
    propertiesOf acc (e :: rest)
      = e.1.showChecked >>= fun name => Property.ofPair name e.2 >>= fun p =>
          propertiesOf (acc.put p.1 p.2) rest := rfl

theorem propertiesOf_cons_writable (acc : Fields) {e : Value × Value} {rest : Mapping}
    (h : e.1.holdsLong = false) :
    propertiesOf acc (e :: rest)
      = Property.ofPair (Property.entryName e) e.2 >>= fun p => propertiesOf (acc.put p.1 p.2) rest := by
  rw [propertiesOf_cons, Value.showChecked_eq h, ok_bind]
  rfl

/-- Entries with accepted names set what they say, in order. -/
theorem propertiesOf_of_accepts {entries : Mapping} (hlong : entries.IsWritable)
    (h : ∀ e ∈ entries, Property.Accepts (Property.entryName e)) (acc : Fields) :
    propertiesOf acc entries = .ok (acc.update (entries.map Property.ofEntry)) := by
  induction entries generalizing acc with
  | nil => rfl
  | cons e rest ih =>
    obtain ⟨hname, hvalue⟩ := hlong e List.mem_cons_self
    rw [propertiesOf_cons_writable acc hname, Property.ofPair_of_accepts (h e List.mem_cons_self) hvalue, ok_bind]
    exact ih (fun g hg => hlong g (List.mem_cons_of_mem _ hg)) (fun g hg => h g (List.mem_cons_of_mem _ hg)) _

/-- An entry with a name that is not accepted makes the settings wrong. -/
theorem propertiesOf_of_not_accepts {entries : Mapping} (hlong : entries.IsWritable)
    (h : ∃ e ∈ entries, ¬ Property.Accepts (Property.entryName e)) (acc : Fields) :
    ∃ m, propertiesOf acc entries = .error (.misconfigured m) := by
  induction entries generalizing acc with
  | nil =>
    obtain ⟨e, he, _⟩ := h
    cases he
  | cons e rest ih =>
    obtain ⟨hname, hvalue⟩ := hlong e List.mem_cons_self
    rw [propertiesOf_cons_writable acc hname]
    by_cases hhead : Property.Accepts (Property.entryName e)
    · rw [Property.ofPair_of_accepts hhead hvalue, ok_bind]
      obtain ⟨g, hg, hnot⟩ := h
      rcases List.mem_cons.mp hg with rfl | hg
      · exact absurd hhead hnot
      · exact ih (fun g hg => hlong g (List.mem_cons_of_mem _ hg)) ⟨g, hg, hnot⟩ _
    · rw [Property.ofPair_of_not_accepts hhead, error_bind]
      exact ⟨_, rfl⟩

theorem propertiesOf_sound {entries : Mapping} {acc fs : Fields} (hacc : Property.Sound acc)
    (h : propertiesOf acc entries = .ok fs) : Property.Sound fs := by
  induction entries generalizing acc with
  | nil =>
    cases h
    exact hacc
  | cons e rest ih =>
    rw [propertiesOf_cons] at h
    obtain ⟨name, _, h⟩ := bind_eq_ok_iff.mp h
    obtain ⟨p, hp, h⟩ := bind_eq_ok_iff.mp h
    exact ih (hacc.put (Property.isSupported_of_ofPair hp) p.2) h

end FileSettings

namespace Arguments

/-- The arguments that set properties: all but the commands. -/
def given (a : Arguments) : List String := a.properties.filter fun p => !commandWords.contains p

theorem withProperties_command {p : String} (h : commandWords.contains p = true) (fs : Fields)
    (rest : List String) : withProperties fs (p :: rest) = withProperties fs rest := by
  simp only [withProperties, h, if_true]

theorem withProperties_cons {p : String} (h : commandWords.contains p = false) (fs : Fields)
    (rest : List String) :
    withProperties fs (p :: rest)
      = Property.ofArgument p >>= fun q => withProperties (fs.put q.1 q.2) rest := by
  simp only [withProperties, h, Bool.false_eq_true, if_false]

/-- The commands among the arguments set nothing. -/
theorem withProperties_filter (fs : Fields) (ps : List String) :
    withProperties fs (ps.filter fun p => !commandWords.contains p) = withProperties fs ps := by
  induction ps generalizing fs with
  | nil => rfl
  | cons p rest ih =>
    cases h : commandWords.contains p with
    | true =>
      rw [List.filter_cons_of_neg (by rw [h]; decide), withProperties_command h]
      exact ih fs
    | false =>
      rw [List.filter_cons_of_pos (by rw [h]; rfl), withProperties_cons h, withProperties_cons h]
      simp only [ih]

/-- Accepted arguments set what they say, in order. -/
theorem withProperties_of_accepts {ps : List String} (hwords : ∀ p ∈ ps, commandWords.contains p = false)
    (h : ∀ p ∈ ps, Property.AcceptsArgument p) (fs : Fields) :
    withProperties fs ps = .ok (fs.update (ps.filterMap Property.assigned?)) := by
  induction ps generalizing fs with
  | nil => rfl
  | cons p rest ih =>
    obtain ⟨q, hq, _, hok⟩ := Property.ofArgument_of_accepts (h p List.mem_cons_self)
    rw [withProperties_cons (hwords p List.mem_cons_self), hok, List.filterMap_cons_some hq, ok_bind]
    exact ih (fun r hr => hwords r (List.mem_cons_of_mem _ hr)) (fun r hr => h r (List.mem_cons_of_mem _ hr)) _

/-- An argument that is not accepted makes the settings wrong. -/
theorem withProperties_of_not_accepts {ps : List String} (hwords : ∀ p ∈ ps, commandWords.contains p = false)
    (h : ∃ p ∈ ps, ¬ Property.AcceptsArgument p) (fs : Fields) :
    ∃ m, withProperties fs ps = .error (.misconfigured m) := by
  induction ps generalizing fs with
  | nil =>
    obtain ⟨p, hp, _⟩ := h
    cases hp
  | cons p rest ih =>
    rw [withProperties_cons (hwords p List.mem_cons_self)]
    by_cases hhead : Property.AcceptsArgument p
    · obtain ⟨q, _, _, hok⟩ := Property.ofArgument_of_accepts hhead
      rw [hok, ok_bind]
      obtain ⟨r, hr, hnot⟩ := h
      rcases List.mem_cons.mp hr with rfl | hr
      · exact absurd hhead hnot
      · exact ih (fun r hr => hwords r (List.mem_cons_of_mem _ hr)) ⟨r, hr, hnot⟩ _
    · obtain ⟨m, hm⟩ := Property.ofArgument_of_not_accepts hhead
      rw [hm, error_bind]
      exact ⟨m, rfl⟩

theorem withProperties_sound {ps : List String} {fs made : Fields} (hfs : Property.Sound fs)
    (h : withProperties fs ps = .ok made) : Property.Sound made := by
  induction ps generalizing fs with
  | nil =>
    cases h
    exact hfs
  | cons p rest ih =>
    cases hword : commandWords.contains p with
    | true =>
      rw [withProperties_command hword] at h
      exact ih hfs h
    | false =>
      rw [withProperties_cons hword] at h
      obtain ⟨q, hq, h⟩ := bind_eq_ok_iff.mp h
      exact ih (hfs.put (Property.isSupported_of_ofArgument hq) q.2) h

end Arguments

/-! ## The law -/

namespace Property

/-- Every name in the file and every argument is accepted. -/
def AllAccepted (entries : Mapping) (arguments : List String) : Prop :=
  (∀ e ∈ entries, Accepts (entryName e)) ∧ ∀ p ∈ arguments, AcceptsArgument p

instance (entries : Mapping) (arguments : List String) : Decidable (AllAccepted entries arguments) :=
  decidable_of_iff
    (entries.all (fun e => Accepts (entryName e)) = true ∧ arguments.all (fun p => AcceptsArgument p) = true) <| by
    simp only [AllAccepted, List.all_eq_true, decide_eq_true_eq]

/-- **Properties resolved** from entries of the file and arguments: a key has the value of the last argument for it,
    else that of the last entry for it, else none. -/
structure Resolved (entries : Mapping) (arguments : List String) (fs : Fields) : Prop where
  get?_eq : ∀ key, fs.get? key
    = (Fields.last? (arguments.filterMap assigned?) key).or (Fields.last? (entries.map ofEntry) key)
  sound : Sound fs
  checked : Settings.checkProperties fs = .ok ()

end Property

namespace Arguments

theorem given_not_command (a : Arguments) : ∀ p ∈ a.given, commandWords.contains p = false := fun p hp => by
  simpa using (List.mem_filter.mp hp).2

/-- **The properties are sound** whenever there are settings at all. -/
theorem settings_sound {a : Arguments} {w : Surroundings} {j : Journal} {s : Settings}
    {written : List WrittenFile} (h : (a.settings w).result j = .ok (s, written)) : Property.Sound s.properties := by
  obtain ⟨_, _, _, _, _, hentries, _, harguments, _, rfl⟩ := settings_parts h
  exact withProperties_sound (FileSettings.propertiesOf_sound .nil hentries) harguments

/-- What the settings come to once the file is read and the connection is accepted. -/
theorem settings_result_of_connected {a : Arguments} {w : Surroundings} {data entries : Mapping} {c : Connection}
    {written : List WrittenFile}
    (hfile : FileSettings.sections a.config w.environment w.files = .ok ⟨data, entries⟩)
    (hconnection : a.connected w data = .ok (c, written)) (hvalid : c.validate = .ok ()) (j : Journal) :
    (a.settings w).result j
      = FileSettings.propertiesOf [] entries >>= fun fromFile => withProperties fromFile a.given >>= fun properties =>
          .ok (a.settingsWith c properties, written) := by
  rw [settings_result, hfile, ok_bind]
  unfold assembled finished given
  simp only [hconnection, ok_bind, hvalid, withProperties_filter]
  rfl

/-- **The properties of a run** with a connection that can be used: if a name in the file or an argument is not
    accepted, the settings are wrong; else they are resolved, every key by the last argument or else the last entry
    for it. -/
theorem settings_resolves (a : Arguments) (w : Surroundings) (j : Journal) {data entries : Mapping}
    {c : Connection} {written : List WrittenFile}
    (hfile : FileSettings.sections a.config w.environment w.files = .ok ⟨data, entries⟩)
    (hlong : entries.IsWritable)
    (hconnection : a.connected w data = .ok (c, written)) (hvalid : c.validate = .ok ()) :
    (¬ Property.AllAccepted entries a.given →
        ∃ f, (a.settings w).result j = .error f ∧ f.isConfig = true)
      ∧ (Property.AllAccepted entries a.given →
        ∃ properties, (a.settings w).result j = .ok (a.settingsWith c properties, written)
          ∧ Property.Resolved entries a.given properties) := by
  have hresult := settings_result_of_connected hfile hconnection hvalid j
  constructor
  · intro h
    by_cases hentries : ∀ e ∈ entries, Property.Accepts (Property.entryName e)
    · have hargument : ∃ p ∈ a.given, ¬ Property.AcceptsArgument p := by
        by_contra hall
        exact h ⟨hentries, fun p hp => by_contra fun hnot => hall ⟨p, hp, hnot⟩⟩
      rw [FileSettings.propertiesOf_of_accepts hlong hentries, ok_bind] at hresult
      obtain ⟨m, hm⟩ := withProperties_of_not_accepts a.given_not_command hargument
        (Fields.update [] (entries.map Property.ofEntry))
      rw [hm, error_bind] at hresult
      exact ⟨_, hresult, rfl⟩
    · have hentry : ∃ e ∈ entries, ¬ Property.Accepts (Property.entryName e) := by
        by_contra hall
        exact hentries fun e he => by_contra fun hnot => hall ⟨e, he, hnot⟩
      obtain ⟨m, hm⟩ := FileSettings.propertiesOf_of_not_accepts hlong hentry []
      rw [hm, error_bind] at hresult
      exact ⟨_, hresult, rfl⟩
  · intro ⟨hentries, harguments⟩
    rw [FileSettings.propertiesOf_of_accepts hlong hentries, ok_bind,
      withProperties_of_accepts a.given_not_command harguments, ok_bind] at hresult
    have hsound := settings_sound hresult
    refine ⟨_, hresult, ⟨fun key => ?_, hsound, hsound.checks⟩⟩
    rw [Fields.get?_update, Fields.get?_update]
    congr 1
    exact Option.or_none

/-- A file that spells a property in two ways. -/
def spelledTwice : Surroundings :=
  .holding [("KFC_CONFIG", "c.yaml")]
    [("c.yaml", "kafka:\n  consumer:\n    fetch.min.bytes: 1\n    FETCH-MIN-BYTES: 2\n    client.id: 7\n")]

/-- An entry that names an integer. -/
def numbered? : Value × Value → Option (String × Int)
  | (.text name, .int n) => some (name, n)
  | _ => none

/-- Entries that name integers can be read off their names and numbers. -/
theorem eq_of_numbered? {es : Mapping} (qs : List (String × Int)) (h : es.map numbered? = qs.map some) :
    es = qs.map fun q => (.text q.1, .int q.2) := by
  induction es generalizing qs with
  | nil =>
    obtain rfl := List.map_eq_nil_iff.mp h.symm
    rfl
  | cons e rest ih =>
    obtain ⟨q, others, rfl, hq, hothers⟩ := List.map_eq_cons_iff.mp h.symm
    have he : e = (.text q.1, .int q.2) := by
      unfold numbered? at hq
      split at hq
      · cases hq
        rfl
      · cases hq
    rw [he, ih others hothers.symm]
    rfl

theorem sections_spelledTwice :
    FileSettings.sections none spelledTwice.environment spelledTwice.files
      = .ok ⟨[], [(.text "fetch.min.bytes", .int 1), (.text "FETCH-MIN-BYTES", .int 2),
          (.text "client.id", .int 7)]⟩ := by
  obtain ⟨⟨connection, properties⟩, hsections, hread⟩ := exists_ok_of_any
    (x := FileSettings.sections none spelledTwice.environment spelledTwice.files)
    (p := fun sections => sections.connection.isEmpty && sections.properties.map numbered?
      == [some ("fetch.min.bytes", 1), some ("FETCH-MIN-BYTES", 2), some ("client.id", 7)]) (by decide +kernel)
  obtain ⟨hconnection, hproperties⟩ := Bool.and_eq_true_iff.mp hread
  obtain rfl := List.isEmpty_iff.mp hconnection
  obtain rfl := eq_of_numbered? [("fetch.min.bytes", 1), ("FETCH-MIN-BYTES", 2), ("client.id", 7)]
    (eq_of_beq hproperties)
  exact hsections

/-- Two spellings in the file and another one as an argument, which wins, beside a command. -/
theorem settings_resolves_of_script :
    let a : Arguments :=
      { Arguments.usual with properties := ["topic.Fetch.Min-Bytes= 5", "dump", "fetch-max-bytes=7"] }
    ∃ properties, (a.settings spelledTwice).result .empty = .ok (a.settingsWith Connection.usual properties, [])
      ∧ (properties.get? "fetch_min_bytes").map Value.quoted = some "5"
      ∧ (properties.get? "fetch_max_bytes").map Value.quoted = some "7"
      ∧ (properties.get? "client_id").map Value.quoted = some "'7'"
      ∧ (properties.get? "FETCH-MIN-BYTES").map Value.quoted = none := by
  intro a
  have hconnection : a.connected spelledTwice [] = .ok (Connection.usual, []) := rfl
  obtain ⟨properties, hresult, hresolved⟩ :=
    (settings_resolves a spelledTwice .empty sections_spelledTwice (by decide +kernel) hconnection rfl).2
      (by decide +kernel)
  refine ⟨properties, hresult, ?_⟩
  simp only [hresolved.get?_eq]
  decide +kernel

end Arguments

end TopicReader
