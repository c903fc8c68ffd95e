import TopicReader.Proofs.Paths
import TopicReader.Proofs.Settings.Furnishing

/-!
# `Proofs.Settings.Certificates` — writing certificates once

What the environment holds is written to a file below a directory and becomes a setting; after that the setting names
a file like one that was given. So a connection that has its certificates gets them no second time: whatever the
environment holds is in a file already, and the protocol is no longer the one in the clear.

## Contents
- **Files.** `Certificates.EndsLine`, `Certificates.IsFileOf`, and `Certificates.fileFor?_eq_some_iff`.
- **One application.** `Certificates.Settles`, and `Certificates.Furnishes.settles`.
- **Another one.** `Certificates.Settles.furnish_eq`: it changes nothing and writes nothing.
- **The law.** `Certificates.materialize_settles`.
-/

namespace TopicReader

namespace Certificates

variable {env : Environment} {directory : String}

/-! ## Files -/

/-- Does a text end its last line? -/
def EndsLine (text : String) : Prop := ∃ before, text = before ++ "\n"

theorem endsLine_iff {text : String} : EndsLine text ↔ text.toList.getLast? = some '\n' := by
  constructor
  · rintro ⟨before, rfl⟩
    rw [String.toList_append]
    exact List.getLast?_concat
  · intro hlast
    obtain ⟨front, hfront⟩ := List.getLast?_eq_some_iff.mp hlast
    refine ⟨String.ofList front, String.toList_inj.mp ?_⟩
    rw [hfront, String.toList_append, String.toList_ofList]
    rfl

/-- A line break is put behind a text that has none there. -/
theorem terminated_iff {text out : String} :
    terminated text = out ↔ EndsLine text ∧ out = text ∨ ¬ EndsLine text ∧ out = text ++ "\n" := by
  unfold terminated
  by_cases hends : EndsLine text
  · simp [endsLine_iff.mp hends, hends, eq_comm]
  · have hlast : text.toList.getLast? ≠ some '\n' := fun h => hends (endsLine_iff.mpr h)
    simp [hlast, hends, eq_comm]

/-- **The file for a held text**: below the directory, with the text and a line break at its end, and for its owner
    alone. -/
structure IsFileOf (directory : String) (source : Source) (text : String) (file : WrittenFile) : Prop where
  path : file.path = pathFor (Path.normalize directory) source
  text : EndsLine text ∧ file.text = text ∨ ¬ EndsLine text ∧ file.text = text ++ "\n"
  mode : file.mode = 0o600

theorem isFileOf_iff {source : Source} {text : String} {file : WrittenFile} :
    IsFileOf directory source text file
      ↔ file = ⟨pathFor (Path.normalize directory) source, terminated text, ownerOnly⟩ := by
  constructor
  · rintro ⟨hpath, htext, hmode⟩
    obtain ⟨path, content, mode⟩ := file
    cases hpath
    cases hmode
    rw [terminated_iff.mpr htext]
    rfl
  · rintro rfl
    exact ⟨rfl, terminated_iff.mp rfl, rfl⟩

theorem isComponent_fileName {source : Source} (h : source ∈ sources) :
    Path.IsComponent source.fileName.toList := by
  have hall : ∀ s ∈ sources, s.fileName.toList ≠ [] ∧ s.fileName.toList ≠ ['.'] ∧ '/' ∉ s.fileName.toList := by
    decide
  obtain ⟨hne, hdot, hslash⟩ := hall source h
  exact ⟨hne, hdot, hslash⟩

/-- A file is below the directory, under its own name. -/
theorem parts_pathFor {source : Source} (h : source ∈ sources) (directory : String) :
    Path.parts (pathFor (Path.normalize directory) source).toList
      = Path.parts directory.toList ++ [source.fileName.toList] := by
  unfold pathFor
  rw [Path.parts_join _ (isComponent_fileName h), Path.parts_normalize]

/-- Every source has a path of its own. -/
theorem pathFor_inj {source other : Source} (h : source ∈ sources) (hother : other ∈ sources)
    (heq : pathFor (Path.normalize directory) source = pathFor (Path.normalize directory) other) :
    source = other := by
  have hnames : (sources.map (·.fileName)).Nodup := by decide
  have hparts := parts_pathFor h directory
  rw [heq, parts_pathFor hother directory] at hparts
  have hname := List.singleton_inj.mp (List.append_cancel_left hparts)
  exact List.inj_on_of_nodup_map hnames h hother (String.toList_inj.mp hname).symm

/-! ## One application -/

/-- **What certificates make of a connection.** A setting that names a file keeps it. One that is empty gets the path
    of its file below the directory, in normal form, exactly if the environment holds a text for it, and is left as it
    was if not. The files are those of the settings that got one, each written once. A connection in the clear becomes
    an encrypted one, any other keeps its protocol, and nothing else changes. -/
structure Settles (env : Environment) (directory : String) (before after : Connection) (written : List WrittenFile) :
    Prop where
  kept : ∀ source ∈ sources, (before.get source.setting).truthy = true →
    after.get source.setting = before.get source.setting
  placed : ∀ source ∈ sources, (before.get source.setting).truthy = false →
    ((held? env source).isSome = true ↔ ∃ path, after.get source.setting = .text path ∧ Path.normalize path = path
      ∧ Path.parts path.toList = Path.parts directory.toList ++ [source.fileName.toList])
  left : ∀ source ∈ sources, held? env source = none → after.get source.setting = before.get source.setting
  files : ∀ file, file ∈ written ↔ ∃ source ∈ sources, ∃ text, held? env source = some text
    ∧ (before.get source.setting).truthy = false ∧ after.get source.setting = .text file.path
    ∧ IsFileOf directory source text file
  once : (written.map (·.path)).Nodup
  encrypted : before.protocol = .text "PLAINTEXT" → after.protocol = .text "SSL"
  protocol : before.protocol ≠ .text "PLAINTEXT" → after.protocol = before.protocol
  others : ∀ s, s ≠ .protocol → s.isFile = false → after.get s = before.get s

theorem fileFor?_eq_some_iff {before : Setting → Value} {source : Source} {text : String} {file : WrittenFile} :
    fileFor? (Path.normalize directory) before source text = some file
      ↔ (before source.setting).truthy = false ∧ IsFileOf directory source text file := by
  rw [isFileOf_iff]
  unfold fileFor?
  cases (before source.setting).truthy <;> simp [eq_comm]

/-- No path is written twice, since every source has one of its own. -/
theorem nodup_written (env : Environment) (directory : String) (before : Setting → Value) :
    ((sources.filterMap fun source =>
      (held? env source).bind (fileFor? (Path.normalize directory) before source)).map (·.path)).Nodup := by
  have hpath : ∀ source file,
      (held? env source).bind (fileFor? (Path.normalize directory) before source) = some file →
        file.path = pathFor (Path.normalize directory) source := by
    intro source file hfile
    obtain ⟨text, -, hwritten⟩ := Option.bind_eq_some_iff.mp hfile
    exact (fileFor?_eq_some_iff.mp hwritten).2.path
  show List.Pairwise (· ≠ ·) _
  rw [List.pairwise_map, List.pairwise_filterMap]
  refine nodup_sources.of_map.pairwise_of_forall_ne ?_
  intro source hsource other hother hne file hfile otherFile hotherFile heq
  rw [hpath source file hfile, hpath other otherFile hotherFile] at heq
  exact hne (pathFor_inj hsource hother heq)

/-- Furnishing a connection settles it, if the environment holds anything. -/
theorem Furnishes.settles {before after : Connection} {written : List WrittenFile} (h : HoldsAny env)
    (hfurnishes : Furnishes env directory before.get after written) :
    Settles env directory before after written := by
  have hpath : ∀ source ∈ sources, ∀ text, held? env source = some text →
      (before.get source.setting).truthy = false →
      after.get source.setting = .text (pathFor (Path.normalize directory) source) := hfurnishes.placed
  refine ⟨?_, ?_, ?_, ?_, ?_, ?_, ?_, hfurnishes.others⟩
  · intro source hsource hgiven
    exact hfurnishes.kept source hsource (.inl hgiven)
  · intro source hsource hempty
    constructor
    · intro hheld
      obtain ⟨text, htext⟩ := Option.isSome_iff_exists.mp hheld
      exact ⟨_, hpath source hsource text htext hempty, Path.normalize_join _ _, parts_pathFor hsource directory⟩
    · rintro ⟨path, hafter, hnormal, -⟩
      -- A setting that was left empty names no path, since a path in normal form is not empty.
      by_contra hnone
      rw [hfurnishes.kept source hsource (.inr (Option.not_isSome_iff_eq_none.mp hnone))] at hafter
      rw [hafter] at hempty
      have hpathEmpty : path = "" := by simpa [Value.truthy] using hempty
      exact Path.normalize_ne_empty path (hnormal.trans hpathEmpty)
  · intro source hsource hnone
    exact hfurnishes.kept source hsource (.inr hnone)
  · intro file
    rw [hfurnishes.written, List.mem_filterMap]
    constructor
    · rintro ⟨source, hsource, hfile⟩
      obtain ⟨text, htext, hwritten⟩ := Option.bind_eq_some_iff.mp hfile
      obtain ⟨hempty, hfileOf⟩ := fileFor?_eq_some_iff.mp hwritten
      refine ⟨source, hsource, text, htext, hempty, ?_, hfileOf⟩
      rw [hpath source hsource text htext hempty, hfileOf.path]
    · rintro ⟨source, hsource, text, htext, hempty, -, hfileOf⟩
      exact ⟨source, hsource, Option.bind_eq_some_iff.mpr
        ⟨text, htext, fileFor?_eq_some_iff.mpr ⟨hempty, hfileOf⟩⟩⟩
  · rw [hfurnishes.written]
    exact nodup_written env directory before.get
  · exact fun hclear => hfurnishes.encrypted hclear h
  · exact fun hother => hfurnishes.protocol (.inl hother)

/-! ## Another one -/

theorem place_of_given {item : Source × String} {state : Connection × List WrittenFile}
    (h : (state.1.get item.1.setting).truthy = true) (below : String) : place below state item = state := by
  unfold place
  rw [if_pos h]

theorem foldl_place_of_given {items : List (Source × String)} {state : Connection × List WrittenFile}
    (h : ∀ item ∈ items, (state.1.get item.1.setting).truthy = true) (below : String) :
    items.foldl (place below) state = state := by
  induction items with
  | nil => rfl
  | cons item rest ih =>
    obtain ⟨hitem, hrest⟩ := List.forall_mem_cons.mp h
    rw [List.foldl_cons, place_of_given hitem, ih hrest]

/-- After one application every setting that the environment holds a text for names a file. -/
theorem Settles.given {before after : Connection} {written : List WrittenFile}
    (h : Settles env directory before after written) {source : Source} (hsource : source ∈ sources)
    (hheld : (held? env source).isSome = true) : (after.get source.setting).truthy = true := by
  by_cases hgiven : (before.get source.setting).truthy = true
  · rw [h.kept source hsource hgiven, hgiven]
  · obtain ⟨path, hafter, hnormal, -⟩ := (h.placed source hsource (eq_false_of_ne_true hgiven)).mp hheld
    have hne : path ≠ "" := fun hempty => Path.normalize_ne_empty path (hnormal.trans hempty)
    rw [hafter]
    simpa [Value.truthy] using hne

/-- After one application no connection is in the clear. -/
theorem Settles.protocol_ne {before after : Connection} {written : List WrittenFile}
    (h : Settles env directory before after written) : after.protocol ≠ .text "PLAINTEXT" := by
  by_cases hclear : before.protocol = .text "PLAINTEXT"
  · rw [h.encrypted hclear]
    simp
  · rw [h.protocol hclear]
    exact hclear

/-- **Another application** changes nothing and writes nothing. -/
theorem Settles.furnish_eq {before after : Connection} {written : List WrittenFile}
    (h : Settles env directory before after written) (hany : HoldsAny env) :
    furnish after env directory = (after, []) := by
  have hgiven : ∀ item ∈ present env, (after.get item.1.setting).truthy = true := by
    rintro ⟨source, text⟩ hitem
    obtain ⟨hsource, htext⟩ := mem_present_iff.mp hitem
    exact h.given hsource (by rw [htext]; rfl)
  -- What was placed the first time counts as given now.
  have hplaced : (present env).foldl (place (Path.normalize directory)) (after, []) = (after, []) :=
    foldl_place_of_given hgiven _
  rw [furnish_of_present (present_ne_nil_iff.mpr hany), hplaced]
  unfold Certificates.encrypted
  rw [if_neg fun hsame => h.protocol_ne (Value.same_text_iff.mp hsame)]

/-! ## The law -/

theorem materialize_of_absent (h : ¬ HoldsAny env) (c : Connection) (directory : String) (j : Journal) :
    (materialize c env directory).run.run j = (.ok none, j) := by
  have habsent : present env = [] := by_contra fun hsome => h (present_ne_nil_iff.mp hsome)
  unfold materialize
  rw [habsent]
  rfl

theorem materialize_of_present (h : HoldsAny env) (c : Connection) (directory : String) (j : Journal) :
    ∃ next, (materialize c env directory).run.run j = (.ok (some (furnish c env directory)), next) := by
  have hsome : (present env).isEmpty = false :=
    List.isEmpty_eq_false_iff.mpr (present_ne_nil_iff.mpr h)
  unfold materialize Certificates.furnish
  simp only [hsome, Bool.false_eq_true, if_false]
  exact ⟨_, rfl⟩

/-- **Certificates are written once.** Where the environment holds none, there is no new connection, no file and no
    record in the log. Where it holds some, they settle the connection, and another application with the same
    environment and directory leaves the connection as it is and writes nothing. -/
theorem materialize_settles (c : Connection) (env : Environment) (directory : String) (j : Journal) :
    (¬ HoldsAny env → (materialize c env directory).run.run j = (.ok none, j))
      ∧ (HoldsAny env → ∃ after written next,
        (materialize c env directory).run.run j = (.ok (some (after, written)), next)
          ∧ Settles env directory c after written
          ∧ ∀ k, ∃ last, (materialize after env directory).run.run k = (.ok (some (after, [])), last)) := by
  refine ⟨fun hnone => materialize_of_absent hnone c directory j, fun hany => ?_⟩
  have hsettles := (furnish_furnishes c env directory).settles hany
  obtain ⟨next, hrun⟩ := materialize_of_present hany c directory j
  refine ⟨_, _, next, hrun, hsettles, fun k => ?_⟩
  obtain ⟨last, hagain⟩ := materialize_of_present hany (furnish c env directory).1 directory k
  rw [hsettles.furnish_eq hany] at hagain
  exact ⟨last, hagain⟩

end Certificates

end TopicReader
