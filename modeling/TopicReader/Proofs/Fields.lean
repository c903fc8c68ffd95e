import TopicReader.Value.Basic

/-!
# `Proofs.Fields` — what fields hold after some of them were set

Fields are an ordered mapping that is written to in three ways: one field is set, it is set unless it is there, and
several are set in order. Here it is said what a name has after each of them, and which names there are.

## Contents
- **Names.** `Fields.names`, and that setting fields keeps them distinct.
- **Looking up.** `Fields.get?_put`, `Fields.get?_putNew`; `Fields.last?`: what is set last under a name, and
  `Fields.get?_update`; the two are one where every name is there once (`Fields.last?_eq_get?` and
  `Fields.get?_update_of_nodup`).
-/

namespace TopicReader

namespace Fields

/-- The names of some fields. -/
def names (fs : Fields) : List String := fs.map (·.1)

/-- What is set last under a name. -/
def last? (fs : Fields) (name : String) : Option Value := get? fs.reverse name

theorem get?_cons (f : String × Value) (fs : Fields) (key : String) :
    get? (f :: fs) key = if f.1 = key then some f.2 else fs.get? key := by
  by_cases h : f.1 = key <;> simp [get?, h]

theorem get?_append (fs other : Fields) (name : String) :
    get? (fs ++ other) name = (fs.get? name).or (other.get? name) := by
  unfold get?
  rw [List.find?_append]
  cases List.find? (fun f => f.1 == name) fs <;> rfl

theorem get?_put (fs : Fields) (name key : String) (v : Value) :
    (fs.put name v).get? key = if name = key then some v else fs.get? key := by
  induction fs with
  | nil => exact get?_cons (name, v) [] key
  | cons f rest ih =>
    unfold put
    by_cases hf : f.1 = name
    · rw [if_pos (by simpa using hf), get?_cons, get?_cons, hf]
      by_cases h : name = key <;> simp [h]
    · rw [if_neg (by simpa using hf), get?_cons, get?_cons, ih]
      by_cases h : name = key
      · have hne : f.1 ≠ key := fun hk => hf (hk.trans h.symm)
        rw [if_neg hne, if_neg hne]
      · rw [if_neg h, if_neg h]

/-- A field that is there stays as it is. -/
theorem get?_putNew {fs : Fields} {key : String} {v : Value} (h : fs.get? key = some v) (name : String)
    (w : Value) : (fs.putNew name w).get? key = some v := by
  unfold putNew
  split
  · exact h
  · obtain ⟨f, hf, rfl⟩ := Option.map_eq_some_iff.mp h
    simp only [get?, List.find?_append, hf, Option.some_or, Option.map_some]

theorem has_eq_isSome (fs : Fields) (name : String) : fs.has name = (fs.get? name).isSome := by
  induction fs with
  | nil => rfl
  | cons f rest ih =>
    rw [get?_cons]
    by_cases h : f.1 = name
    · simp [has, h]
    · have hrest : has (f :: rest) name = has rest name := by simp [has, h]
      rw [hrest, ih, if_neg h]

/-- A field that is set unless it is there. -/
theorem get?_putNew_eq (fs : Fields) (name key : String) (v : Value) :
    (fs.putNew name v).get? key = (fs.get? key).or (if name = key then some v else none) := by
  cases hkey : fs.get? key with
  | some w => exact get?_putNew hkey name v
  | none =>
    rw [Option.none_or]
    unfold putNew
    rw [has_eq_isSome]
    have hnone : List.find? (fun f => f.1 == key) fs = none := Option.map_eq_none_iff.mp hkey
    by_cases h : name = key
    · subst h
      simp [get?, List.find?_append, hnone]
    · rw [if_neg h]
      split
      · exact hkey
      · simp [get?, List.find?_append, hnone, h]

theorem mem_names_iff {fs : Fields} {name : String} : name ∈ fs.names ↔ (fs.get? name).isSome = true := by
  rw [← has_eq_isSome]
  simp [names, has]

theorem mem_names_put {fs : Fields} {name key : String} {v : Value} (h : key ∈ (fs.put name v).names) :
    key = name ∨ key ∈ fs.names := by
  induction fs with
  | nil => exact .inl (by simpa [put, names] using h)
  | cons f rest ih =>
    unfold put at h
    split at h
    · exact .inr (by simpa [names] using h)
    · rcases List.mem_cons.mp h with h | h
      · exact .inr (h ▸ List.mem_cons_self)
      · exact (ih h).imp_right (List.mem_cons_of_mem _)

theorem nodup_names_put {fs : Fields} (h : fs.names.Nodup) (name : String) (v : Value) :
    (fs.put name v).names.Nodup := by
  induction fs with
  | nil => simp [put, names]
  | cons f rest ih =>
    obtain ⟨hf, hrest⟩ := List.nodup_cons.mp h
    unfold put
    split
    · exact List.nodup_cons.mpr ⟨hf, hrest⟩
    · rename_i hne
      refine List.nodup_cons.mpr ⟨fun hmem => ?_, ih hrest⟩
      rcases mem_names_put hmem with heq | hmem
      · exact hne (by simpa using heq)
      · exact hf hmem

theorem last?_cons (f : String × Value) (fs : Fields) (key : String) :
    last? (f :: fs) key = (fs.last? key).or (if f.1 = key then some f.2 else none) := by
  unfold last? get?
  rw [List.reverse_cons, List.find?_append]
  cases List.find? (fun g => g.1 == key) fs.reverse with
  | some g => rfl
  | none => by_cases h : f.1 = key <;> simp [h]

theorem get?_of_notMem {fs : Fields} {key : String} (h : key ∉ fs.names) : fs.get? key = none := by
  have hnone : fs.find? (fun f => f.1 == key) = none := by
    rw [List.find?_eq_none]
    intro f hf hkey
    exact h (List.mem_map.mpr ⟨f, hf, eq_of_beq hkey⟩)
  unfold get?
  rw [hnone]
  rfl

/-- What is not among the names was never set. -/
theorem last?_of_notMem {fs : Fields} {key : String} (h : key ∉ fs.names) : fs.last? key = none := by
  have hreverse : key ∉ names fs.reverse := by
    unfold names at h ⊢
    rwa [List.map_reverse, List.mem_reverse]
  exact get?_of_notMem hreverse

/-- Where every name is there once, the first field of a name is the last one. -/
theorem last?_eq_get? {fs : Fields} (h : fs.names.Nodup) (key : String) : fs.last? key = fs.get? key := by
  induction fs with
  | nil => rfl
  | cons f rest ih =>
    obtain ⟨hf, hrest⟩ := List.nodup_cons.mp h
    rw [last?_cons, get?_cons, ih hrest]
    by_cases hkey : f.1 = key
    · rw [if_pos hkey, if_pos hkey, get?_of_notMem (hkey ▸ hf)]
      rfl
    · rw [if_neg hkey, if_neg hkey, Option.or_none]

/-- A change of every value by its name is a change of the value that is looked up. -/
theorem last?_map (fs : Fields) (change : String → Value → Value) (key : String) :
    last? (fs.map fun f => (f.1, change f.1 f.2)) key = (fs.last? key).map (change key) := by
  induction fs with
  | nil => rfl
  | cons f rest ih =>
    rw [List.map_cons, last?_cons, last?_cons, ih]
    cases last? rest key with
    | some v => rfl
    | none =>
      by_cases h : f.1 = key
      · subst h
        simp
      · simp [h]

/-- After fields are set in order, a name has what was set last. -/
theorem get?_update (fs other : Fields) (key : String) :
    (fs.update other).get? key = (other.last? key).or (fs.get? key) := by
  induction other generalizing fs with
  | nil => rfl
  | cons f rest ih =>
    show ((fs.put f.1 f.2).update rest).get? key = _
    rw [ih, get?_put, last?_cons, Option.or_assoc]
    congr 1
    by_cases h : f.1 = key <;> simp [h]

/-- Where each of them has a name of its own, what the later fields have under a name decides. -/
theorem get?_update_of_nodup {other : Fields} (distinct : other.names.Nodup) (fs : Fields) (key : String) :
    (fs.update other).get? key = (other.get? key).or (fs.get? key) := by
  rw [get?_update, last?_eq_get? distinct]

end Fields

end TopicReader
