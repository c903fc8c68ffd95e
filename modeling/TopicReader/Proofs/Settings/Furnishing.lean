import Mathlib.Data.List.Nodup
import TopicReader.Proofs.Settings.Loading

/-!
# `Proofs.Settings.Furnishing` — a connection with the certificates of the environment

The environment may hold certificates and a key as texts. Each is written to a file for its setting, unless that
setting names a file already, and a connection in the clear becomes an encrypted one. The sources serve settings of
their own, so the order in which they are looked at does not matter: every setting can be given by itself.

## Contents
- **Held texts.** `Certificates.held?`: what the environment holds for a source.
- **One source.** `Setting.isFile`, and what placing a source changes.
- **All sources.** `Certificates.foldl_place_get` and `Certificates.foldl_place_written`.
- **The law.** `Certificates.Furnishes` and `Certificates.furnish_furnishes`.
- **Bystanders.** `Certificates.Bystander`: changes of a connection that can be made before or after.
-/

namespace TopicReader

/-- Does a setting name a file? -/
def Setting.isFile : Setting → Bool
  | .authority | .certificate | .privateKey => true
  | _ => false

/-- Only a text is the same as a text. -/
theorem Value.same_text_iff {v : Value} {t : String} : v.same (.text t) = true ↔ v = .text t := by
  cases v <;> simp [Value.same, Value.number?]

namespace Certificates

/-! ## Held texts -/

/-- What the environment holds for a source; an empty text is nothing. -/
def held? (env : Environment) (source : Source) : Option String := (env.get? source.name).filter (· ≠ "")

/-- Does the environment hold anything? -/
def HoldsAny (env : Environment) : Prop := ∃ source ∈ sources, (held? env source).isSome = true

theorem present_eq (env : Environment) :
    present env = sources.filterMap fun source => (held? env source).map fun text => (source, text) := by
  unfold present held?
  refine List.filterMap_congr fun source _ => ?_
  cases env.get? source.name with
  | none => rfl
  | some text => by_cases h : text = "" <;> simp [Option.filter, h]

theorem mem_present_iff {env : Environment} {source : Source} {text : String} :
    (source, text) ∈ present env ↔ source ∈ sources ∧ held? env source = some text := by
  rw [present_eq, List.mem_filterMap]
  constructor
  · rintro ⟨other, hother, h⟩
    obtain ⟨t, ht, heq⟩ := Option.map_eq_some_iff.mp h
    cases heq
    exact ⟨hother, ht⟩
  · rintro ⟨hsource, htext⟩
    exact ⟨source, hsource, by rw [htext]; rfl⟩

theorem present_ne_nil_iff {env : Environment} : present env ≠ [] ↔ HoldsAny env := by
  constructor
  · intro h
    obtain ⟨⟨source, text⟩, hitem⟩ := List.exists_mem_of_ne_nil _ h
    obtain ⟨hsource, htext⟩ := mem_present_iff.mp hitem
    exact ⟨source, hsource, by rw [htext]; rfl⟩
  · rintro ⟨source, hsource, hheld⟩ hnone
    obtain ⟨text, htext⟩ := Option.isSome_iff_exists.mp hheld
    have hitem := mem_present_iff.mpr ⟨hsource, htext⟩
    rw [hnone] at hitem
    cases hitem

/-! ## One source -/

/-- The path of the file for a source. -/
def pathFor (directory : String) (source : Source) : String := Path.join directory source.fileName

/-- The file that is written for a source; none if the setting names a file already. -/
def fileFor? (directory : String) (before : Setting → Value) (source : Source) (text : String) :
    Option WrittenFile :=
  if (before source.setting).truthy then none else some ⟨pathFor directory source, terminated text, ownerOnly⟩

theorem setFile_get {s : Setting} (h : s.isFile = true) (c : Connection) (path : String) (t : Setting) :
    (setFile c s path).get t = if t = s then .text path else c.get t := by
  cases s with
  | authority => cases t <;> rfl
  | certificate => cases t <;> rfl
  | privateKey => cases t <;> rfl
  | _ => cases h

/-- Placing a source changes its own setting only, and that one only where it is empty. -/
theorem place_get {item : Source × String} (h : item.1.setting.isFile = true) (directory : String)
    (state : Connection × List WrittenFile) (t : Setting) :
    (place directory state item).1.get t
      = if t = item.1.setting ∧ (state.1.get t).truthy = false then .text (pathFor directory item.1)
        else state.1.get t := by
  unfold place
  by_cases hgiven : (state.1.get item.1.setting).truthy = true
  · rw [if_pos hgiven, if_neg]
    rintro ⟨rfl, hempty⟩
    rw [hgiven] at hempty
    cases hempty
  · have hempty := eq_false_of_ne_true hgiven
    rw [if_neg hgiven]
    show (setFile state.1 item.1.setting (pathFor directory item.1)).get t = _
    rw [setFile_get h]
    by_cases ht : t = item.1.setting
    · subst ht
      rw [if_pos rfl, if_pos ⟨rfl, hempty⟩]
    · rw [if_neg ht, if_neg fun hboth => ht hboth.1]

theorem place_get_of_ne {item : Source × String} (h : item.1.setting.isFile = true) {t : Setting}
    (ht : t ≠ item.1.setting) (directory : String) (state : Connection × List WrittenFile) :
    (place directory state item).1.get t = state.1.get t := by
  rw [place_get h, if_neg fun hboth => ht hboth.1]

theorem place_written (directory : String) (state : Connection × List WrittenFile) (item : Source × String) :
    (place directory state item).2 = state.2 ++ (fileFor? directory state.1.get item.1 item.2).toList := by
  unfold place fileFor?
  by_cases hgiven : (state.1.get item.1.setting).truthy = true
  · rw [if_pos hgiven, if_pos hgiven]
    exact (List.append_nil _).symm
  · rw [if_neg hgiven, if_neg hgiven]
    rfl

/-! ## All sources -/

/-- Settings that no item serves are left alone. -/
theorem foldl_place_get_of_notMem {items : List (Source × String)}
    (hfile : ∀ item ∈ items, item.1.setting.isFile = true) {t : Setting}
    (ht : t ∉ items.map fun item => item.1.setting) (directory : String)
    (state : Connection × List WrittenFile) :
    (items.foldl (place directory) state).1.get t = state.1.get t := by
  induction items generalizing state with
  | nil => rfl
  | cons item rest ih =>
    obtain ⟨hitem, hrest⟩ := List.forall_mem_cons.mp hfile
    rw [List.map_cons, List.mem_cons, not_or] at ht
    rw [List.foldl_cons, ih hrest ht.2, place_get_of_ne hitem ht.1]

/-- The setting of an item has its file, unless it names one already. -/
theorem foldl_place_get {items : List (Source × String)}
    (hfile : ∀ item ∈ items, item.1.setting.isFile = true)
    (hdistinct : (items.map fun item => item.1.setting).Nodup) {item : Source × String} (hmem : item ∈ items)
    (directory : String) (state : Connection × List WrittenFile) :
    (items.foldl (place directory) state).1.get item.1.setting
      = if (state.1.get item.1.setting).truthy then state.1.get item.1.setting
        else .text (pathFor directory item.1) := by
  induction items generalizing state with
  | nil => cases hmem
  | cons first rest ih =>
    obtain ⟨hfirst, hrest⟩ := List.forall_mem_cons.mp hfile
    rw [List.map_cons, List.nodup_cons] at hdistinct
    rw [List.foldl_cons]
    rcases List.mem_cons.mp hmem with rfl | hmem
    · rw [foldl_place_get_of_notMem hrest hdistinct.1, place_get hfirst]
      cases (state.1.get item.1.setting).truthy <;> simp
    · -- An item further behind finds its setting as it was at the start, since no other item serves it.
      have hne : item.1.setting ≠ first.1.setting := by
        intro heq
        apply hdistinct.1
        rw [← heq]
        exact List.mem_map.mpr ⟨item, hmem, rfl⟩
      rw [ih hrest hdistinct.2 hmem, place_get_of_ne hfirst hne]

/-- Which files are written depends on the settings before the first one was placed. -/
theorem foldl_place_written {items : List (Source × String)}
    (hfile : ∀ item ∈ items, item.1.setting.isFile = true)
    (hdistinct : (items.map fun item => item.1.setting).Nodup) (directory : String)
    (state : Connection × List WrittenFile) :
    (items.foldl (place directory) state).2
      = state.2 ++ items.filterMap fun item => fileFor? directory state.1.get item.1 item.2 := by
  induction items generalizing state with
  | nil => exact (List.append_nil _).symm
  | cons item rest ih =>
    obtain ⟨hitem, hrest⟩ := List.forall_mem_cons.mp hfile
    rw [List.map_cons, List.nodup_cons] at hdistinct
    have hkept : ∀ other ∈ rest,
        fileFor? directory (place directory state item).1.get other.1 other.2
          = fileFor? directory state.1.get other.1 other.2 := by
      intro other hother
      have hne : other.1.setting ≠ item.1.setting := by
        intro heq
        apply hdistinct.1
        rw [← heq]
        exact List.mem_map.mpr ⟨other, hother, rfl⟩
      unfold fileFor?
      rw [place_get_of_ne hitem hne]
    rw [List.foldl_cons, ih hrest hdistinct.2, place_written, List.filterMap_congr hkept, List.append_assoc,
      List.filterMap_cons]
    cases fileFor? directory state.1.get item.1 item.2 <;> rfl

/-! ## The law -/

theorem isFile_of_mem_sources {source : Source} (h : source ∈ sources) : source.setting.isFile = true := by
  revert source
  decide

theorem nodup_sources : (sources.map (·.setting)).Nodup := by decide

/-- Every source serves a setting of its own. -/
theorem source_eq_of_setting_eq {source other : Source} (h : source ∈ sources) (hother : other ∈ sources)
    (heq : source.setting = other.setting) : source = other :=
  List.inj_on_of_nodup_map nodup_sources h hother heq

theorem nodup_present (env : Environment) : ((present env).map fun item => item.1.setting).Nodup := by
  have hsublist : ((present env).map (·.1)).Sublist sources := by
    rw [present_eq]
    induction sources with
    | nil => exact .slnil
    | cons source rest ih =>
      cases hheld : held? env source with
      | none =>
        rw [List.filterMap_cons_none (by rw [hheld]; rfl)]
        exact ih.cons _
      | some text =>
        rw [List.filterMap_cons_some (by rw [hheld]; rfl), List.map_cons]
        exact ih.cons_cons _
  have hmap : ((present env).map fun item => item.1.setting) = ((present env).map (·.1)).map (·.setting) := by
    rw [List.map_map]
    rfl
  rw [hmap]
  exact (hsublist.map _).nodup nodup_sources

/-- **What the certificates of the environment make of some settings**: a setting for a file that is still empty has
    the path of its file if the environment holds one, a connection in the clear is encrypted if the environment holds
    any, everything else is as it was, and the files are those of the settings that changed. -/
structure Furnishes (env : Environment) (directory : String) (before : Setting → Value) (after : Connection)
    (written : List WrittenFile) : Prop where
  placed : ∀ source ∈ sources, ∀ text, held? env source = some text → (before source.setting).truthy = false →
    after.get source.setting = .text (pathFor (Path.normalize directory) source)
  kept : ∀ source ∈ sources, (before source.setting).truthy = true ∨ held? env source = none →
    after.get source.setting = before source.setting
  encrypted : before .protocol = .text "PLAINTEXT" → HoldsAny env → after.protocol = .text "SSL"
  protocol : before .protocol ≠ .text "PLAINTEXT" ∨ ¬ HoldsAny env → after.protocol = before .protocol
  others : ∀ s, s ≠ .protocol → s.isFile = false → after.get s = before s
  written : written = sources.filterMap fun source =>
    (held? env source).bind (fileFor? (Path.normalize directory) before source)

theorem encrypted_get (c : Connection) {s : Setting} (h : s ≠ .protocol) : (encrypted c).get s = c.get s := by
  unfold encrypted
  split
  · cases s <;> first | rfl | exact absurd rfl h
  · rfl

theorem encrypted_protocol_of_plain {c : Connection} (h : c.protocol = .text "PLAINTEXT") :
    (encrypted c).protocol = .text "SSL" := by
  unfold encrypted
  rw [if_pos (Value.same_text_iff.mpr h)]

theorem encrypted_protocol_of_ne {c : Connection} (h : c.protocol ≠ .text "PLAINTEXT") :
    (encrypted c).protocol = c.protocol := by
  unfold encrypted
  rw [if_neg fun hsame => h (Value.same_text_iff.mp hsame)]

theorem furnish_of_present {env : Environment} (h : present env ≠ []) (c : Connection) (directory : String) :
    furnish c env directory
      = (encrypted ((present env).foldl (place (Path.normalize directory)) (c, [])).1,
          ((present env).foldl (place (Path.normalize directory)) (c, [])).2) := by
  have hsome : (present env).isEmpty = false := eq_false_of_ne_true fun hempty => h (List.isEmpty_iff.mp hempty)
  unfold furnish
  simp only [hsome, Bool.false_eq_true, if_false]

/-- Where the environment holds nothing, everything is as it was. -/
theorem Furnishes.of_absent {env : Environment} (h : ¬ HoldsAny env) (directory : String) (c : Connection) :
    Furnishes env directory c.get c [] := by
  have hnone : ∀ source ∈ sources, held? env source = none := fun source hsource =>
    Option.not_isSome_iff_eq_none.mp fun hsome => h ⟨source, hsource, hsome⟩
  refine ⟨fun source hsource text htext _ => ?_, fun _ _ _ => rfl, fun _ hany => absurd hany h, fun _ => rfl,
    fun _ _ _ => rfl, ?_⟩
  · rw [hnone source hsource] at htext
    cases htext
  · symm
    rw [List.filterMap_eq_nil_iff]
    intro source hsource
    rw [hnone source hsource]
    rfl

/-- **Furnishing a connection** does what the certificates of the environment make of its settings. -/
theorem furnish_furnishes (c : Connection) (env : Environment) (directory : String) :
    Furnishes env directory c.get (furnish c env directory).1 (furnish c env directory).2 := by
  by_cases hany : HoldsAny env
  · have hfile : ∀ item ∈ present env, item.1.setting.isFile = true := fun item hitem =>
      isFile_of_mem_sources (mem_present_iff.mp hitem).1
    have hdistinct := nodup_present env
    -- Only settings for files are served, so the protocol and all the others come through the placing untouched.
    have hplain {s : Setting} (hs : s.isFile = false) : s ∉ (present env).map fun item => item.1.setting := by
      intro hmem
      obtain ⟨item, hitem, rfl⟩ := List.mem_map.mp hmem
      rw [hfile item hitem] at hs
      cases hs
    have hne {source : Source} (hsource : source ∈ sources) : source.setting ≠ .protocol := fun heq => by
      have hisFile := isFile_of_mem_sources hsource
      rw [heq] at hisFile
      cases hisFile
    rw [furnish_of_present (present_ne_nil_iff.mpr hany)]
    have hprotocol := foldl_place_get_of_notMem hfile (hplain (s := .protocol) rfl) (Path.normalize directory) (c, [])
    refine ⟨?_, ?_, ?_, ?_, ?_, ?_⟩
    · intro source hsource text htext hempty
      rw [encrypted_get _ (hne hsource)]
      rw [foldl_place_get hfile hdistinct (mem_present_iff.mpr ⟨hsource, htext⟩)]
      simp only [hempty, Bool.false_eq_true, if_false]
    · intro source hsource hkept
      rw [encrypted_get _ (hne hsource)]
      cases hheld : held? env source with
      | some text =>
        have hgiven : (c.get source.setting).truthy = true :=
          hkept.resolve_right fun hnone => by rw [hheld] at hnone; cases hnone
        rw [foldl_place_get hfile hdistinct (mem_present_iff.mpr ⟨hsource, hheld⟩), if_pos hgiven]
      | none =>
        refine foldl_place_get_of_notMem hfile (fun hmem => ?_) _ _
        obtain ⟨⟨other, text⟩, hitem, heq⟩ := List.mem_map.mp hmem
        obtain ⟨hother, htext⟩ := mem_present_iff.mp hitem
        rw [source_eq_of_setting_eq hother hsource heq, hheld] at htext
        cases htext
    · intro hclear _
      exact encrypted_protocol_of_plain (hprotocol.trans hclear)
    · intro hkept
      have hnot := hkept.resolve_right fun h => h hany
      exact (encrypted_protocol_of_ne fun h => hnot (hprotocol.symm.trans h)).trans hprotocol
    · intro s hs hsfile
      rw [encrypted_get _ hs]
      exact foldl_place_get_of_notMem hfile (hplain hsfile) _ _
    · rw [foldl_place_written hfile hdistinct, present_eq, List.nil_append, List.filterMap_filterMap]
      refine List.filterMap_congr fun source _ => ?_
      cases held? env source <;> rfl
  · have habsent : present env = [] := by_contra fun h => hany (present_ne_nil_iff.mp h)
    rw [furnish_of_absent habsent]
    exact .of_absent hany directory c

/-! ## Bystanders -/

/-- **A change that certificates do not meet**: it touches neither a setting for a file nor the protocol. -/
structure Bystander (change : Connection → Connection) : Prop where
  kept : ∀ c s, s.isFile = true → (change c).get s = c.get s
  setFile : ∀ c s path, setFile (change c) s path = change (setFile c s path)
  encrypted : ∀ c, encrypted (change c) = change (encrypted c)

namespace Bystander

variable {change : Connection → Connection}

theorem place (h : Bystander change) {item : Source × String} (hfile : item.1.setting.isFile = true)
    (directory : String) (c : Connection) (files : List WrittenFile) :
    place directory (change c, files) item
      = (change (Certificates.place directory (c, files) item).1,
          (Certificates.place directory (c, files) item).2) := by
  unfold Certificates.place
  dsimp only
  rw [h.kept c _ hfile]
  split
  · rfl
  · rw [h.setFile]

theorem foldl_place (h : Bystander change) {items : List (Source × String)}
    (hfile : ∀ item ∈ items, item.1.setting.isFile = true) (directory : String) (c : Connection)
    (files : List WrittenFile) :
    items.foldl (Certificates.place directory) (change c, files)
      = (change (items.foldl (Certificates.place directory) (c, files)).1,
          (items.foldl (Certificates.place directory) (c, files)).2) := by
  induction items generalizing c files with
  | nil => rfl
  | cons item rest ih =>
    obtain ⟨hitem, hrest⟩ := List.forall_mem_cons.mp hfile
    rw [List.foldl_cons, List.foldl_cons, h.place hitem]
    exact ih hrest _ _

/-- Such a change can be made before the certificates are put in place, or after. -/
theorem furnish (h : Bystander change) (c : Connection) (env : Environment) (directory : String) :
    furnish (change c) env directory
      = (change (Certificates.furnish c env directory).1, (Certificates.furnish c env directory).2) := by
  by_cases hpresent : present env = []
  · rw [furnish_of_absent hpresent, furnish_of_absent hpresent]
  · have hfile : ∀ item ∈ present env, item.1.setting.isFile = true := fun item hitem =>
      isFile_of_mem_sources (mem_present_iff.mp hitem).1
    rw [furnish_of_present hpresent, furnish_of_present hpresent, h.foldl_place hfile, h.encrypted]

end Bystander

end Certificates

end TopicReader
