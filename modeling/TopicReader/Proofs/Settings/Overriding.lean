import TopicReader.Proofs.Settings.Escapes
import TopicReader.Proofs.Settings.Furnishing

/-!
# `Proofs.Settings.Overriding` — a connection that two mappings have their say in

Two mappings may be merged into a connection one after the other, or the second may first be set on top of the first
and the result be merged at once. Here the two ways are shown to be the same: a name means one setting, what is merged
last under a name decides, and whether a value can be taken depends on nothing but its name.

## Contents
- **Names.** `Fields.getText?_toMapping`: what a name has in fields that are seen as a mapping.
- **What can be merged.** `Connection.Mergeable`: every field names a setting and holds a value for it;
  `Connection.merged_toMapping_ok_iff`, and `Connection.Mergeable.update`.
- **The law.** `Connection.overridden`: what a setting has after two mappings, and `Connection.merged_update`.
-/

namespace TopicReader

/-! ## Names -/

/-- Seen as a mapping, fields have the same under every name. -/
theorem Fields.getText?_toMapping (fs : Fields) (key : String) : fs.toMapping.getText? key = fs.get? key := by
  have hkey : (fun e : Value × Value => e.1.same (.text key)) ∘ (fun f : String × Value => (Value.text f.1, f.2))
      = fun f => f.1 == key := by
    funext f
    show (Value.text f.1).same (.text key) = (f.1 == key)
    rw [Value.same]
  unfold Mapping.getText? Mapping.get? toMapping
  rw [List.find?_map, hkey, Option.map_map]
  rfl

namespace Connection

/-! ## What can be merged -/

theorem isKnown_text_iff (name : String) : isKnown (.text name) = true ↔ ∃ s : Setting, s.name = name := by
  simp only [isKnown, List.any_eq_true, Value.same_text_iff, Value.text.injEq]
  exact ⟨fun ⟨s, _, h⟩ => ⟨s, h.symm⟩, fun ⟨s, h⟩ => ⟨s, s.mem_all, h.symm⟩⟩

/-- All names are known exactly if each of them is that of a setting. -/
theorem unknownKeys_toMapping_iff (fs : Fields) :
    unknownKeys fs.toMapping = [] ↔ ∀ name ∈ fs.names, ∃ s : Setting, s.name = name := by
  simp only [unknownKeys, Mapping.keys, Fields.toMapping, Fields.names, List.map_map, List.filter_eq_nil_iff,
    List.forall_mem_map, Function.comp_apply, Bool.not_eq_true', Bool.not_eq_false, isKnown_text_iff]

/-- Sorting loses nothing, so nothing is left of it only where there was nothing. -/
theorem sortValues_eq_nil_iff (vs : List Value) : sortValues vs = .ok [] ↔ vs = [] := by
  constructor
  · intro h
    exact List.length_eq_zero_iff.mp (sortValues_length h).symm
  · rintro rfl
    rfl

/-- **Fields can be merged** if each of them names a setting and holds a value that the setting takes. -/
def Mergeable (fs : Fields) : Prop := ∀ name v, fs.get? name = some v → ∃ s : Setting, s.name = name ∧ s.Takes v

variable {c d : Connection} {a b fs : Fields}

/-- Whether fields can be merged does not depend on the connection. -/
theorem merged_toMapping_ok_iff : (∃ d, c.merged fs.toMapping = .ok d) ↔ Mergeable fs := by
  rw [merged_ok_iff, sortValues_eq_nil_iff, unknownKeys_toMapping_iff]
  constructor
  · rintro ⟨hknown, htake⟩ name v hname
    obtain ⟨s, rfl⟩ := hknown name (Fields.mem_names_iff.mpr (by rw [hname]; rfl))
    exact ⟨s, rfl, htake s s.mem_all v ((Fields.getText?_toMapping fs s.name).trans hname)⟩
  · intro h
    refine ⟨fun name hname => ?_, fun s _ v hv => ?_⟩
    · obtain ⟨v, hv⟩ := Option.isSome_iff_exists.mp (Fields.mem_names_iff.mp hname)
      obtain ⟨s, hs, -⟩ := h name v hv
      exact ⟨s, hs⟩
    · rw [Fields.getText?_toMapping] at hv
      obtain ⟨t, ht, htakes⟩ := h s.name v hv
      rwa [Setting.name_injective ht] at htakes

theorem Mergeable.update (ha : Mergeable a) (hb : Mergeable b) (distinct : b.names.Nodup) :
    Mergeable (a.update b) := by
  intro name v hv
  rw [Fields.get?_update_of_nodup distinct, Option.or_eq_some_iff] at hv
  rcases hv with hv | ⟨-, hv⟩
  · exact hb name v hv
  · exact ha name v hv

/-! ## The law -/

/-- What a setting has where its name may have a value. -/
theorem merged_toMapping_get (h : c.merged fs.toMapping = .ok d) (s : Setting) :
    d.get s = ((fs.get? s.name).map s.settled).getD (c.get s) := by
  rw [merged_get h, given, Fields.getText?_toMapping]

/-- **What a setting has after two mappings**: what the second has under its name, else what the first has there, else
    what it had before. -/
def overridden (c : Connection) (a b : Fields) (s : Setting) : Value :=
  (((b.get? s.name).or (a.get? s.name)).map s.settled).getD (c.get s)

/-- **Merging composes.** Of two mappings that can both be merged into a connection, the second one set on top of the
    first can be merged too, and so can the second where the first has been merged. Both come to one connection: each
    setting has what the second mapping has under its name, else what the first has there, and what neither names is
    kept. Merging the first mapping again changes nothing. -/
theorem merged_update (c : Connection) {a b : Fields} (distinct : b.names.Nodup) {first second : Connection}
    (takesFirst : c.merged a.toMapping = .ok first) (takesSecond : c.merged b.toMapping = .ok second) :
    ∃ both, c.merged (a.update b).toMapping = .ok both ∧ first.merged b.toMapping = .ok both
      ∧ (∀ s, both.get s = c.overridden a b s)
      ∧ (∀ s, a.get? s.name = none → b.get? s.name = none → both.get s = c.get s)
      ∧ first.merged a.toMapping = .ok first := by
  have ha : Mergeable a := merged_toMapping_ok_iff.mp ⟨first, takesFirst⟩
  have hb : Mergeable b := merged_toMapping_ok_iff.mp ⟨second, takesSecond⟩
  obtain ⟨both, hboth⟩ : ∃ both, c.merged (a.update b).toMapping = .ok both :=
    merged_toMapping_ok_iff.mpr (ha.update hb distinct)
  obtain ⟨last, hlast⟩ : ∃ last, first.merged b.toMapping = .ok last := merged_toMapping_ok_iff.mpr hb
  obtain ⟨again, hagain⟩ : ∃ again, first.merged a.toMapping = .ok again := merged_toMapping_ok_iff.mpr ha
  -- A connection is all of its settings, so what remains is one equation for each of them.
  have hget (s : Setting) : both.get s = c.overridden a b s := by
    rw [merged_toMapping_get hboth, Fields.get?_update_of_nodup distinct, overridden]
  have hsame : last = both := by
    refine ext_get fun s => ?_
    rw [hget, overridden, merged_toMapping_get hlast, merged_toMapping_get takesFirst]
    cases b.get? s.name <;> rfl
  have hidle : again = first := by
    refine ext_get fun s => ?_
    rw [merged_toMapping_get hagain, merged_toMapping_get takesFirst]
    cases a.get? s.name <;> rfl
  refine ⟨both, hboth, hsame ▸ hlast, hget, fun s hunnamed hsilent => ?_, hidle ▸ hagain⟩
  rw [hget, overridden, hunnamed, hsilent]
  rfl

/-- A timeout that both mappings name, as a text and as a number with a fraction, beside settings that only one of them
    names: the first reading is replaced, and the rest is kept. -/
theorem merged_update_of_timeouts :
    let a : Fields := [("request_timeout_ms", .text " 5_000 "), ("sasl_mechanism", .null)]
    let b : Fields :=
      [("bootstrap_servers", .list [.text "one:9092"]), ("request_timeout_ms", .float (Double.ofQuotient 15 2))]
    b.names.Nodup ∧ (∃ first, usual.merged a.toMapping = .ok first ∧ first.requestTimeout = 5000)
      ∧ (∃ second, usual.merged b.toMapping = .ok second ∧ second.requestTimeout = 7)
      ∧ ∃ both, usual.merged (a.update b).toMapping = .ok both ∧ both.get .requestTimeout = .int 7
        ∧ both.get .mechanism = .null ∧ both.get .metadataTimeout = .int 5000 := by
  intro a b
  have hdistinct : b.names.Nodup := by decide
  obtain ⟨both, hboth, -, hget, -, -⟩ := merged_update usual hdistinct (a := a) rfl rfl
  refine ⟨hdistinct, ⟨_, rfl, rfl⟩, ⟨_, rfl, rfl⟩, both, hboth, ?_, ?_, ?_⟩
  · exact hget .requestTimeout
  · exact hget .mechanism
  · exact hget .metadataTimeout

end Connection

end TopicReader
