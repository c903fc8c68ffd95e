import Mathlib.Data.List.Perm.Basic
import TopicReader.Metadata.Basic

/-!
# `Proofs.Metadata` — which topics can be read

A topic is checked for one fault after the other, and the first one found is raised. Here the faults are told without
the order in which the checks are made: each of them names the faults that it presupposes to be absent, so that a topic
has one of them at most. What can be read comes back with its partitions in ascending order, whichever order they were
reported in.

## Contents
- **Errors.** `Names`: an error that says something.
- **Partitions in scope.** `InScope`, `Fails` and `FirstFails`, and `failing?_eq_some_iff`.
- **Faults.** `TopicMetadata.Unfit`, and `Unfit.refuses`: a fault is raised.
- **The check.** `partitionsFor_error_iff` and `partitionsFor_ok_iff`, with what is known of partitions that were found.
-/

namespace TopicReader.TopicMetadata

/-! ## Errors -/

/-- An error that says something. -/
def Names (error : Option String) (e : String) : Prop := error = some e ∧ e ≠ ""

theorem namedError?_eq_some_iff {error : Option String} {e : String} : namedError? error = some e ↔ Names error e := by
  unfold namedError? Names
  rw [Option.filter_eq_some_iff, bne_iff_ne]

theorem namedError?_eq_none_iff {error : Option String} : namedError? error = none ↔ ∀ e, ¬ Names error e := by
  constructor
  · intro h e hnames
    rw [namedError?_eq_some_iff.mpr hnames] at h
    cases h
  · intro h
    rw [Option.eq_none_iff_forall_ne_some]
    intro e he
    exact h e (namedError?_eq_some_iff.mp he)

/-! ## Partitions in scope -/

/-- Is a partition the one asked for? All of them are where none is asked for. -/
def InScope (partition : Option Int) (p : PartitionMetadata) : Prop := ∀ q, partition = some q → q = p.id

/-- A partition in scope that has an error. -/
def Fails (partition : Option Int) (p : PartitionMetadata) (e : String) : Prop := InScope partition p ∧ Names p.error e

/-- **The first partition in scope that has an error**, in the order of the report. -/
def FirstFails (partition : Option Int) (ps : List PartitionMetadata) (p : PartitionMetadata) (e : String) : Prop :=
  ∃ before after, ps = before ++ p :: after ∧ Fails partition p e ∧ ∀ q ∈ before, ∀ d, ¬ Fails partition q d

theorem inScope_iff {partition : Option Int} {p : PartitionMetadata} :
    partition = none ∨ partition = some p.id ↔ InScope partition p := by
  unfold InScope
  cases partition with
  | none => simp
  | some q => simp

/-- The error of a partition in scope. -/
def failure? (partition : Option Int) (p : PartitionMetadata) : Option (Int × String) :=
  match namedError? p.error with
  | some e => if partition = none ∨ partition = some p.id then some (p.id, e) else none
  | none => none

theorem failing?_eq (partition : Option Int) (ps : List PartitionMetadata) :
    failing? partition ps = ps.findSome? (failure? partition) := rfl

theorem failure?_eq_some_iff {partition : Option Int} {p : PartitionMetadata} {i : Int} {e : String} :
    failure? partition p = some (i, e) ↔ i = p.id ∧ Fails partition p e := by
  unfold failure?
  cases herror : namedError? p.error with
  | none =>
    have hnone := namedError?_eq_none_iff.mp herror
    constructor
    · intro h
      cases h
    · rintro ⟨_, _, hnames⟩
      exact absurd hnames (hnone e)
  | some d =>
    have hd := namedError?_eq_some_iff.mp herror
    by_cases hscope : partition = none ∨ partition = some p.id
    · simp only [hscope, if_true]
      constructor
      · intro h
        cases h
        exact ⟨rfl, inScope_iff.mp hscope, hd⟩
      · rintro ⟨rfl, _, hnames⟩
        rw [Option.some.inj (hd.1.symm.trans hnames.1)]
    · simp only [hscope, if_false]
      constructor
      · intro h
        cases h
      · rintro ⟨_, hin, _⟩
        exact absurd (inScope_iff.mpr hin) hscope

theorem failure?_eq_none_iff {partition : Option Int} {p : PartitionMetadata} :
    failure? partition p = none ↔ ∀ e, ¬ Fails partition p e := by
  constructor
  · intro h e hfails
    rw [failure?_eq_some_iff.mpr ⟨rfl, hfails⟩] at h
    cases h
  · intro h
    rw [Option.eq_none_iff_forall_ne_some]
    rintro ⟨i, e⟩ hsome
    exact h e (failure?_eq_some_iff.mp hsome).2

theorem failing?_eq_some_iff {partition : Option Int} {ps : List PartitionMetadata} {i : Int} {e : String} :
    failing? partition ps = some (i, e) ↔ ∃ p, i = p.id ∧ FirstFails partition ps p e := by
  rw [failing?_eq, List.findSome?_eq_some_iff]
  constructor
  · rintro ⟨before, p, after, rfl, hp, hbefore⟩
    obtain ⟨hid, hfails⟩ := failure?_eq_some_iff.mp hp
    exact ⟨p, hid, before, after, rfl, hfails, fun q hq => failure?_eq_none_iff.mp (hbefore q hq)⟩
  · rintro ⟨p, hid, before, after, rfl, hfails, hbefore⟩
    refine ⟨before, p, after, rfl, failure?_eq_some_iff.mpr ⟨hid, hfails⟩, ?_⟩
    intro q hq
    exact failure?_eq_none_iff.mpr (hbefore q hq)

/-! ## Faults -/

/-- The numbers of the partitions, as reported. -/
def ids (m : TopicMetadata) : List Int := m.partitions.map (·.id)

/-- The topic is there, and has partitions and no error. -/
structure Sound (m : TopicMetadata) : Prop where
  present : m.present = true
  unnamed : ∀ e, ¬ Names m.error e
  partitions : m.partitions ≠ []

/-- **What is wrong with a topic**, in the order in which it matters: it is not there, it has an error, it has no
    partitions, it has not the partition that is asked for, or a partition in scope has an error. -/
inductive Unfit (m : TopicMetadata) (topic : String) (partition : Option Int) : Problem → Prop where
  | missing (gone : m.present = false) : Unfit m topic partition (.topicNotFound topic [])
  | topic {e : String} (present : m.present = true) (names : Names m.error e) :
      Unfit m topic partition (.topicError topic e)
  | empty (present : m.present = true) (unnamed : ∀ e, ¬ Names m.error e) (none : m.partitions = []) :
      Unfit m topic partition (.noPartitions topic)
  | partition {p : Int} (sound : m.Sound) (asked : partition = some p) (absent : p ∉ m.ids) :
      Unfit m topic partition (.partitionNotFound topic p m.partitions.length)
  | failing {p : PartitionMetadata} {e : String} (sound : m.Sound) (there : ∀ q, partition = some q → q ∈ m.ids)
      (first : FirstFails partition m.partitions p e) : Unfit m topic partition (.partitionError topic p.id e)

/-! ## The check -/

theorem ascending_perm (ids : List Int) : (ascending ids).Perm ids := List.mergeSort_perm ids _

variable {m : TopicMetadata} {topic : String} {partition : Option Int}

theorem contains_ascending {p : Int} : (ascending m.ids).contains p = true ↔ p ∈ m.ids := by
  rw [List.contains_iff_mem, (ascending_perm m.ids).mem_iff]

/-- A partition is refused for not being there exactly if it is asked for and not there. -/
theorem refuseAbsent_cases (m : TopicMetadata) (topic : String) (partition : Option Int) :
    (∃ p, partition = some p ∧ p ∉ m.ids ∧ refuseAbsent topic partition (ascending m.ids)
        = .error (.classified (.partitionNotFound topic p m.partitions.length)))
      ∨ (∀ p, partition = some p → p ∈ m.ids) ∧ refuseAbsent topic partition (ascending m.ids) = .ok () := by
  have hlength : (ascending m.ids).length = m.partitions.length := by
    rw [(ascending_perm m.ids).length_eq, ids, List.length_map]
  unfold refuseAbsent
  cases partition with
  | none =>
    refine .inr ⟨?_, rfl⟩
    intro p hp
    cases hp
  | some p =>
    by_cases hthere : p ∈ m.ids
    · refine .inr ⟨?_, if_pos (contains_ascending.mpr hthere)⟩
      intro q hq
      cases hq
      exact hthere
    · have hnot : ¬ (ascending m.ids).contains p = true := fun h => hthere (contains_ascending.mp h)
      refine .inl ⟨p, rfl, hthere, ?_⟩
      simp only [if_neg hnot, hlength]

/-- Of a sound topic the partitions are checked: first whether the one that is asked for is there, then whether one of
    those in scope has an error. -/
theorem Sound.partitionsFor_eq (h : m.Sound) (topic : String) (partition : Option Int) :
    m.partitionsFor topic partition = refuseAbsent topic partition (ascending m.ids) >>= fun _ =>
      match failing? partition m.partitions with
      | some (p, e) => .error (.classified (.partitionError topic p e))
      | none => .ok (ascending m.ids) := by
  have hpartitions : m.partitions.isEmpty = false := by
    cases hall : m.partitions with
    | nil => exact absurd hall h.partitions
    | cons p rest => rfl
  unfold partitionsFor
  simp only [h.present, namedError?_eq_none_iff.mpr h.unnamed, hpartitions]
  rfl

/-- **A fault is raised.** -/
theorem Unfit.refuses {problem : Problem} (h : m.Unfit topic partition problem) :
    m.partitionsFor topic partition = .error (.classified problem) := by
  cases h with
  | missing hgone =>
    unfold partitionsFor
    rw [hgone]
    rfl
  | topic hpresent hnames =>
    unfold partitionsFor
    simp only [hpresent, namedError?_eq_some_iff.mpr hnames]
    rfl
  | empty hpresent hunnamed hnone =>
    unfold partitionsFor
    simp only [hpresent, namedError?_eq_none_iff.mpr hunnamed, hnone]
    rfl
  | partition hsound hasked habsent =>
    rw [hsound.partitionsFor_eq]
    rcases refuseAbsent_cases m topic partition with ⟨q, hq, _, hrefused⟩ | ⟨hthere, _⟩
    · cases hasked.symm.trans hq
      rw [hrefused]
      rfl
    · exact absurd (hthere _ hasked) habsent
  | failing hsound hthere hfirst =>
    rw [hsound.partitionsFor_eq]
    rcases refuseAbsent_cases m topic partition with ⟨q, hq, habsent, _⟩ | ⟨_, hfine⟩
    · exact absurd (hthere q hq) habsent
    · rw [hfine, failing?_eq_some_iff.mpr ⟨_, rfl, hfirst⟩]
      rfl

/-- A topic has a fault, or it can be read. -/
theorem partitionsFor_cases (m : TopicMetadata) (topic : String) (partition : Option Int) :
    (∃ problem, m.Unfit topic partition problem)
      ∨ m.partitionsFor topic partition = .ok (ascending m.ids) ∧ m.partitions ≠ []
          ∧ ∀ p, partition = some p → p ∈ m.ids := by
  cases hpresent : m.present with
  | false => exact .inl ⟨_, .missing hpresent⟩
  | true =>
  cases herror : namedError? m.error with
  | some e => exact .inl ⟨_, .topic hpresent (namedError?_eq_some_iff.mp herror)⟩
  | none =>
  have hunnamed := namedError?_eq_none_iff.mp herror
  by_cases hpartitions : m.partitions = []
  · exact .inl ⟨_, .empty hpresent hunnamed hpartitions⟩
  have hsound : m.Sound := ⟨hpresent, hunnamed, hpartitions⟩
  rcases refuseAbsent_cases m topic partition with ⟨p, hasked, habsent, _⟩ | ⟨hthere, hfine⟩
  · exact .inl ⟨_, .partition hsound hasked habsent⟩
  cases hfailing : failing? partition m.partitions with
  | some failure =>
    obtain ⟨p, _, hfirst⟩ := failing?_eq_some_iff.mp hfailing
    exact .inl ⟨_, .failing hsound hthere hfirst⟩
  | none =>
    refine .inr ⟨?_, hpartitions, hthere⟩
    rw [hsound.partitionsFor_eq, hfine, hfailing]
    rfl

/-- **What is raised is the fault of the topic.** -/
theorem partitionsFor_error_iff {f : Failure} :
    m.partitionsFor topic partition = .error f
      ↔ ∃ problem, f = .classified problem ∧ m.Unfit topic partition problem := by
  constructor
  · intro h
    rcases partitionsFor_cases m topic partition with ⟨problem, hunfit⟩ | ⟨hok, _⟩
    · rw [hunfit.refuses] at h
      exact ⟨problem, (Except.error.inj h).symm, hunfit⟩
    · rw [hok] at h
      cases h
  · rintro ⟨problem, rfl, hunfit⟩
    exact hunfit.refuses

/-- Where partitions were found, there is one at least, and the one that is asked for is among them. -/
theorem found_of_partitionsFor {sorted : List Int} (h : m.partitionsFor topic partition = .ok sorted) :
    sorted ≠ [] ∧ ∀ p, partition = some p → p ∈ sorted := by
  rcases partitionsFor_cases m topic partition with ⟨problem, hunfit⟩ | ⟨hok, hpartitions, hthere⟩
  · rw [hunfit.refuses] at h
    cases h
  · rw [hok] at h
    cases h
    constructor
    · intro hnil
      have hnone : m.ids = [] := (hnil ▸ ascending_perm m.ids).nil_eq.symm
      exact hpartitions (List.map_eq_nil_iff.mp hnone)
    · intro p hp
      exact (ascending_perm m.ids).mem_iff.mpr (hthere p hp)

end TopicReader.TopicMetadata
