import Mathlib.Data.List.Forall2
import TopicReader.Proofs.Run.Scope

/-!
# `Proofs.Run.Answers` — what an answer about topics comes to

The cluster answers a question about one topic with a list of entries, and depending on its version it puts the name of
a topic, and the number of a partition, in the one or the other of two members. Here it is shown that nothing hangs on
these: answers that differ in the members, and in what they say about other topics, come to the same. What they come to
is told by the first entry for the topic, and an entry that knows of no such topic wins over the partitions in it.

## Contents
- **Members.** `DescribedTopic.Carries` and `DescribedPartition.Carries`: a name in one of two members.
- **Alike answers.** `DescribedTopic.Respelled` and `Alike`, and `TopicMetadata.ofAnswer_congr`.
- **The first entry.** `FirstEntry`, `firstEntry_iff` and `unmentioned_iff`.
- **Errors.** `TopicMetadata.Reports`: what an entry says, error by error.
- **Faults.** `TopicMetadata.missing_iff` and `TopicMetadata.troubled_iff`.
- **The law.** `TopicMetadata.ofAnswer_outcome`.
-/

namespace TopicReader

/-! ## Members -/

/-- What two members carry: it is in one of them, and nothing is in the other. -/
def InEither {α : Type} (first second : Option α) (a : α) : Prop :=
  first = some a ∧ second = none ∨ first = none ∧ second = some a

theorem InEither.orElse_eq {α : Type} {first second : Option α} {a : α} (h : InEither first second a) :
    (first.orElse fun _ => second) = some a := by
  rcases h with ⟨rfl, rfl⟩ | ⟨rfl, rfl⟩ <;> rfl

/-- The number of a partition, in one of its two members. -/
def DescribedPartition.Carries (p : DescribedPartition) (i : Int) : Prop := InEither p.partition p.partitionIndex i

/-- The name of a topic, in one of its two members. -/
def DescribedTopic.Carries (t : DescribedTopic) (name : String) : Prop := InEither t.topic t.name name

/-- An entry with a name, whose partitions have numbers. -/
structure DescribedTopic.Named (t : DescribedTopic) : Prop where
  title : ∃ name, t.Carries name
  numbers : ∀ p ∈ t.partitions, ∃ i, p.Carries i

theorem DescribedPartition.Carries.id_eq {p : DescribedPartition} {i : Int} (h : p.Carries i) : p.id = i := by
  unfold DescribedPartition.id
  rw [InEither.orElse_eq h]
  rfl

theorem DescribedTopic.Carries.title?_eq {t : DescribedTopic} {name : String} (h : t.Carries name) :
    t.title? = some name := InEither.orElse_eq h

theorem DescribedTopic.Named.title?_eq_some_iff {t : DescribedTopic} (h : t.Named) {name : String} :
    t.title? = some name ↔ t.Carries name := by
  constructor
  · intro heq
    obtain ⟨other, hcarries⟩ := h.title
    cases hcarries.title?_eq.symm.trans heq
    exact hcarries
  · exact DescribedTopic.Carries.title?_eq

/-! ## Alike answers -/

/-- Two entries for the same partition, which may have its number in different members. -/
structure DescribedPartition.Respelled (p q : DescribedPartition) : Prop where
  number : ∃ i, p.Carries i ∧ q.Carries i
  code : p.errorCode = q.errorCode

/-- Two entries for the same topic, which may have its name, and the numbers of its partitions, in different members. -/
structure DescribedTopic.Respelled (t u : DescribedTopic) : Prop where
  title : ∃ name, t.Carries name ∧ u.Carries name
  code : t.errorCode = u.errorCode
  partitions : List.Forall₂ DescribedPartition.Respelled t.partitions u.partitions

/-- **Answers that are alike for a topic**: entries may be respelled, and entries for other topics may be inserted or
    removed anywhere. -/
inductive Alike (topic : String) : List DescribedTopic → List DescribedTopic → Prop where
  | nil : Alike topic [] []
  | entry {t u : DescribedTopic} {answer other : List DescribedTopic} (same : t.Respelled u)
    (rest : Alike topic answer other) : Alike topic (t :: answer) (u :: other)
  | inserted {u : DescribedTopic} {name : String} {answer other : List DescribedTopic} (carries : u.Carries name)
    (elsewhere : name ≠ topic) (rest : Alike topic answer other) : Alike topic answer (u :: other)
  | removed {t : DescribedTopic} {name : String} {answer other : List DescribedTopic} (carries : t.Carries name)
    (elsewhere : name ≠ topic) (rest : Alike topic answer other) : Alike topic (t :: answer) other

variable {table : Metadata.ErrorTable}

theorem DescribedPartition.Respelled.metadata_eq {p q : DescribedPartition} (h : p.Respelled q) :
    p.metadata table = q.metadata table := by
  obtain ⟨i, hp, hq⟩ := h.number
  unfold DescribedPartition.metadata
  rw [hp.id_eq, hq.id_eq, h.code]

theorem DescribedPartition.map_metadata_congr {ps qs : List DescribedPartition}
    (h : List.Forall₂ DescribedPartition.Respelled ps qs) : ps.map (·.metadata table) = qs.map (·.metadata table) := by
  induction h with
  | nil => rfl
  | cons hp _ ih => rw [List.map_cons, List.map_cons, hp.metadata_eq, ih]

namespace TopicMetadata

theorem ofEntry_congr {t u : DescribedTopic} (h : t.Respelled u) (topic : String) :
    ofEntry table topic t = ofEntry table topic u := by
  unfold ofEntry
  rw [h.code, DescribedPartition.map_metadata_congr h.partitions]

theorem ofAnswer_cons (table : Metadata.ErrorTable) (topic : String) (t : DescribedTopic)
    (answer : List DescribedTopic) :
    ofAnswer table topic (t :: answer)
      = if t.title? = some topic then ofEntry table topic t else ofAnswer table topic answer := by
  unfold ofAnswer
  by_cases h : t.title? = some topic
  · have htitle : (t.title? == some topic) = true := beq_iff_eq.mpr h
    simp only [List.find?_cons, htitle, if_pos h]
  · have htitle : (t.title? == some topic) = false := beq_eq_false_iff_ne.mpr h
    simp only [List.find?_cons, htitle, if_neg h]

/-- Entries for other topics are passed over. -/
theorem ofAnswer_cons_of_carries {t : DescribedTopic} {topic name : String} (h : t.Carries name) (hne : name ≠ topic)
    (answer : List DescribedTopic) : ofAnswer table topic (t :: answer) = ofAnswer table topic answer := by
  rw [ofAnswer_cons, h.title?_eq, if_neg fun heq => hne (Option.some.inj heq)]

/-- **Alike answers come to the same.** -/
theorem ofAnswer_congr {topic : String} {answer other : List DescribedTopic} (h : Alike topic answer other) :
    ofAnswer table topic answer = ofAnswer table topic other := by
  -- A respelled entry may be for any topic, so it need not be the one that counts; then the rest decides for both.
  induction h with
  | nil => rfl
  | entry same _ ih =>
    obtain ⟨name, ht, hu⟩ := same.title
    rw [ofAnswer_cons, ofAnswer_cons, ht.title?_eq, hu.title?_eq, ofEntry_congr same, ih]
  | inserted carries elsewhere _ ih => rw [ofAnswer_cons_of_carries carries elsewhere, ih]
  | removed carries elsewhere _ ih => rw [ofAnswer_cons_of_carries carries elsewhere, ih]

/-! ## The first entry -/

/-- **The first entry for a topic** in an answer. -/
def FirstEntry (topic : String) (answer : List DescribedTopic) (t : DescribedTopic) : Prop :=
  ∃ before after, answer = before ++ t :: after ∧ t.Carries topic ∧ ∀ u ∈ before, ¬ u.Carries topic

/-- No entry is for the topic. -/
def Unmentioned (topic : String) (answer : List DescribedTopic) : Prop := ∀ t ∈ answer, ¬ t.Carries topic

variable {topic : String} {answer : List DescribedTopic}

theorem find?_eq_some_iff_firstEntry (named : ∀ t ∈ answer, t.Named) {t : DescribedTopic} :
    (answer.find? fun t => t.title? == some topic) = some t ↔ FirstEntry topic answer t := by
  rw [List.find?_eq_some_iff_append]
  constructor
  · rintro ⟨htitle, before, after, rfl, hbefore⟩
    obtain ⟨hnamedBefore, hnamed⟩ := List.forall_mem_append.mp named
    refine ⟨before, after, rfl, ?_, fun u hu hcarries => ?_⟩
    · exact (hnamed t List.mem_cons_self).title?_eq_some_iff.mp (beq_iff_eq.mp htitle)
    · have hno := hbefore u hu
      rw [hcarries.title?_eq, beq_self_eq_true] at hno
      cases hno
  · rintro ⟨before, after, rfl, hcarries, hbefore⟩
    obtain ⟨hnamedBefore, -⟩ := List.forall_mem_append.mp named
    refine ⟨beq_iff_eq.mpr hcarries.title?_eq, before, after, rfl, fun u hu => ?_⟩
    rw [Bool.not_eq_true', beq_eq_false_iff_ne]
    exact fun htitle => hbefore u hu ((hnamedBefore u hu).title?_eq_some_iff.mp htitle)

theorem find?_eq_none_iff_unmentioned (named : ∀ t ∈ answer, t.Named) :
    (answer.find? fun t => t.title? == some topic) = none ↔ Unmentioned topic answer := by
  rw [List.find?_eq_none]
  refine forall₂_congr fun t ht => not_congr ?_
  rw [beq_iff_eq]
  exact (named t ht).title?_eq_some_iff

theorem FirstEntry.mem {t : DescribedTopic} (h : FirstEntry topic answer t) : t ∈ answer := by
  obtain ⟨before, after, rfl, -⟩ := h
  exact List.mem_append_right _ List.mem_cons_self

theorem FirstEntry.mentioned {t : DescribedTopic} (h : FirstEntry topic answer t) : ¬ Unmentioned topic answer := by
  have hmem := h.mem
  obtain ⟨-, -, -, hcarries, -⟩ := h
  exact fun hnone => hnone t hmem hcarries

theorem FirstEntry.unique (named : ∀ t ∈ answer, t.Named) {t u : DescribedTopic} (ht : FirstEntry topic answer t)
    (hu : FirstEntry topic answer u) : t = u := by
  rw [← find?_eq_some_iff_firstEntry named] at ht hu
  exact Option.some.inj (ht.symm.trans hu)

theorem firstEntry_or_unmentioned (named : ∀ t ∈ answer, t.Named) :
    (∃ t, FirstEntry topic answer t) ∨ Unmentioned topic answer := by
  cases hfind : answer.find? fun t => t.title? == some topic with
  | some t => exact Or.inl ⟨t, (find?_eq_some_iff_firstEntry named).mp hfind⟩
  | none => exact Or.inr ((find?_eq_none_iff_unmentioned named).mp hfind)

theorem FirstEntry.ofAnswer_eq (named : ∀ t ∈ answer, t.Named) {t : DescribedTopic} (h : FirstEntry topic answer t) :
    ofAnswer table topic answer = ofEntry table topic t := by
  unfold ofAnswer
  rw [(find?_eq_some_iff_firstEntry named).mpr h]

theorem Unmentioned.ofAnswer_eq (named : ∀ t ∈ answer, t.Named) (h : Unmentioned topic answer) :
    ofAnswer table topic answer = absent topic := by
  unfold ofAnswer
  rw [(find?_eq_none_iff_unmentioned named).mpr h]

/-! ## Errors -/

theorem ofEntry_of_unknown {t : DescribedTopic} (h : t.errorCode = some Metadata.unknownTopicCode) (topic : String) :
    ofEntry table topic t = absent topic := if_pos h

theorem ofEntry_of_known {t : DescribedTopic} (h : t.errorCode ≠ some Metadata.unknownTopicCode) (topic : String) :
    ofEntry table topic t
      = ⟨topic, true, Metadata.errorName? table (t.errorCode.getD 0), t.partitions.map (·.metadata table)⟩ :=
  if_neg h

theorem errorName?_ne_empty (code : Int) : Metadata.errorName? table code ≠ some "" := by
  obtain ⟨hother, hnames⟩ := List.forall_mem_cons.mp table.telling
  unfold Metadata.errorName?
  split
  · exact nofun
  · cases hfind : table.names.find? fun e => e.1 == code with
    | some e =>
      have hmem : e.2 ∈ table.names.map Prod.snd := List.mem_map_of_mem (List.mem_of_find?_eq_some hfind)
      exact fun heq => hnames e.2 hmem (Option.some.inj heq)
    | none => exact fun heq => hother (Option.some.inj heq)

theorem errorName?_eq_none_iff {code : Int} : Metadata.errorName? table code = none ↔ code = 0 := by
  unfold Metadata.errorName?
  constructor
  · intro hnone
    by_contra hne
    rw [if_neg hne] at hnone
    split at hnone <;> cases hnone
  · exact fun hzero => if_pos hzero

/-- An error code has a name that says something, unless it is zero. -/
theorem exists_names_errorName?_iff {code : Int} : (∃ e, Names (Metadata.errorName? table code) e) ↔ code ≠ 0 := by
  rw [← not_iff_not, not_not, ← errorName?_eq_none_iff]
  constructor
  · intro hno
    refine Option.eq_none_iff_forall_ne_some.mpr fun e he => hno ⟨e, he, ?_⟩
    rintro rfl
    exact errorName?_ne_empty code he
  · rintro hnone ⟨e, he, -⟩
    rw [hnone] at he
    cases he

/-- No error: the code is zero, or there is none. -/
def Unerring (code : Option Int) : Prop := code = none ∨ code = some 0

theorem errorName?_getD_eq_none_iff {code : Option Int} :
    Metadata.errorName? table (code.getD 0) = none ↔ Unerring code := by
  rw [errorName?_eq_none_iff]
  cases code <;> simp [Unerring]

/-- **What an entry reports**: its partitions, each with its number, in their order, and no errors but those that it has
    codes for. -/
structure Reports (m : TopicMetadata) (t : DescribedTopic) : Prop where
  present : m.present = true
  error : m.error = none ↔ Unerring t.errorCode
  partitions : List.Forall₂ (fun q p => p.Carries q.id ∧ (q.error = none ↔ Unerring p.errorCode)) m.partitions
    t.partitions

theorem reports_ofEntry {t : DescribedTopic} (named : t.Named) (known : t.errorCode ≠ some Metadata.unknownTopicCode)
    (topic : String) : (ofEntry table topic t).Reports t := by
  rw [ofEntry_of_known known]
  refine ⟨rfl, errorName?_getD_eq_none_iff, ?_⟩
  rw [List.forall₂_map_left_iff, List.forall₂_same]
  intro p hp
  obtain ⟨i, hcarries⟩ := named.numbers p hp
  refine ⟨?_, errorName?_getD_eq_none_iff⟩
  rwa [DescribedPartition.metadata, hcarries.id_eq]

/-! ## Faults -/

section Faults

variable {m : TopicMetadata} {partition : Option Int}

/-- A topic is not found exactly if it is not there. -/
theorem missing_iff :
    (∃ f, m.partitionsFor topic partition = .error f ∧ f.name = "TopicNotFound") ↔ m.present = false := by
  constructor
  · rintro ⟨f, hf, hname⟩
    obtain ⟨problem, rfl, hunfit⟩ := partitionsFor_error_iff.mp hf
    cases hunfit with
    | missing gone => exact gone
    | _ => simp [Failure.name, Problem.kind, Problem.Kind.name] at hname
  · exact fun gone => ⟨_, (Unfit.missing gone).refuses, rfl⟩

/-- A topic has an error exactly if it is there and its error says something. -/
theorem troubled_iff :
    (∃ f, m.partitionsFor topic partition = .error f ∧ f.name = "TopicError")
      ↔ m.present = true ∧ ∃ e, Names m.error e := by
  constructor
  · rintro ⟨f, hf, hname⟩
    obtain ⟨problem, rfl, hunfit⟩ := partitionsFor_error_iff.mp hf
    cases hunfit with
    | topic present names => exact ⟨present, _, names⟩
    | _ => simp [Failure.name, Problem.kind, Problem.Kind.name] at hname
  · rintro ⟨present, e, names⟩
    exact ⟨_, (Unfit.topic present names).refuses, rfl⟩

end Faults

theorem present_ofAnswer_iff (named : ∀ t ∈ answer, t.Named) :
    (ofAnswer table topic answer).present = false
      ↔ Unmentioned topic answer ∨ ∃ t, FirstEntry topic answer t ∧ t.errorCode = some Metadata.unknownTopicCode := by
  rcases firstEntry_or_unmentioned named with ⟨t, hfirst⟩ | hnone
  · rw [hfirst.ofAnswer_eq named]
    by_cases hcode : t.errorCode = some Metadata.unknownTopicCode
    · rw [ofEntry_of_unknown hcode]
      exact iff_of_true rfl (Or.inr ⟨t, hfirst, hcode⟩)
    · rw [ofEntry_of_known hcode]
      refine iff_of_false nofun ?_
      rintro (hnone | ⟨u, hu, hunknown⟩)
      · exact hfirst.mentioned hnone
      · exact hcode (hu.unique named hfirst ▸ hunknown)
  · rw [hnone.ofAnswer_eq named]
    exact iff_of_true rfl (Or.inl hnone)

theorem error_ofAnswer_iff (named : ∀ t ∈ answer, t.Named) :
    ((ofAnswer table topic answer).present = true ∧ ∃ e, Names (ofAnswer table topic answer).error e)
      ↔ ∃ t code, FirstEntry topic answer t ∧ t.errorCode = some code ∧ code ≠ 0
          ∧ code ≠ Metadata.unknownTopicCode := by
  rcases firstEntry_or_unmentioned named with ⟨t, hfirst⟩ | hnone
  · rw [hfirst.ofAnswer_eq named]
    by_cases hcode : t.errorCode = some Metadata.unknownTopicCode
    · rw [ofEntry_of_unknown hcode]
      refine iff_of_false (fun h => nomatch h.1) ?_
      rintro ⟨u, code, hu, hcode', -, hother⟩
      rw [hu.unique named hfirst, hcode] at hcode'
      exact hother (Option.some.inj hcode').symm
    · rw [ofEntry_of_known hcode, exists_names_errorName?_iff]
      constructor
      · rintro ⟨-, hne⟩
        cases herror : t.errorCode with
        | none => exact absurd (by rw [herror]; rfl) hne
        | some code =>
          rw [herror] at hne hcode
          exact ⟨t, code, hfirst, herror, hne, fun heq => hcode (congrArg some heq)⟩
      · rintro ⟨u, code, hu, hcode', hne, -⟩
        rw [← hu.unique named hfirst, hcode']
        exact ⟨rfl, hne⟩
  · rw [hnone.ofAnswer_eq named]
    refine iff_of_false (fun h => nomatch h.1) ?_
    rintro ⟨t, -, hfirst, -⟩
    exact hfirst.mentioned hnone

/-! ## The law -/

/-- **What an answer comes to**, whatever the errors are called. It hangs neither on the members that the names are in,
    nor on entries for other topics.
    An entry with the code of unknown topics, or no entry, makes the topic absent; any other first entry is reported as
    it is. A run that is answered so then fails to find the topic exactly if it is absent, and fails with its error
    exactly if its first entry has a code that is neither zero nor that of unknown topics. -/
theorem ofAnswer_outcome (table : Metadata.ErrorTable) (topic : String) (answer : List DescribedTopic)
    (named : ∀ t ∈ answer, t.Named) :
    (∀ other, Alike topic answer other → ofAnswer table topic other = ofAnswer table topic answer)
      ∧ (∀ t, FirstEntry topic answer t →
          if t.errorCode = some 3 then ofAnswer table topic answer = absent topic
          else (ofAnswer table topic answer).Reports t)
      ∧ (Unmentioned topic answer → ofAnswer table topic answer = absent topic)
      ∧ ∀ {σ : Type} (c : Client σ) (seconds : Double) (partition : Option Int) (run : Run σ),
          (run.fetch c topic seconds).1 = .ok (ofAnswer table topic answer) →
          let resolved := (run.resolve c topic seconds partition).1
          ((∃ f, resolved = .error f ∧ f.name = "TopicNotFound")
              ↔ Unmentioned topic answer ∨ ∃ t, FirstEntry topic answer t ∧ t.errorCode = some 3)
            ∧ ((∃ f, resolved = .error f ∧ f.name = "TopicError")
              ↔ ∃ t code, FirstEntry topic answer t ∧ t.errorCode = some code ∧ code ≠ 0 ∧ code ≠ 3) := by
  refine ⟨fun other h => (ofAnswer_congr h).symm, fun t hfirst => ?_, fun hnone => hnone.ofAnswer_eq named, ?_⟩
  · rw [hfirst.ofAnswer_eq named]
    split
    · rename_i hcode
      exact ofEntry_of_unknown hcode topic
    · rename_i hcode
      exact reports_ofEntry (named t hfirst.mem) hcode topic
  · intro σ c seconds partition run answered resolved
    have hresolved : resolved = (ofAnswer table topic answer).partitionsFor topic partition :=
      Run.resolve_of_answer answered partition
    rw [hresolved]
    exact ⟨missing_iff.trans (present_ofAnswer_iff named), troubled_iff.trans (error_ofAnswer_iff named)⟩

/-- A topic with an error, behind another one, in the members of a newer version; and the same in those of an older one,
    with the other topic moved to the end. -/
theorem ofAnswer_outcome_of_script :
    let elsewhere : DescribedTopic := ⟨some "other", none, some 3, []⟩
    let newer : DescribedTopic := ⟨none, some "events", some 5, [⟨none, some 1, some 9⟩, ⟨some 0, none, none⟩]⟩
    let older : DescribedTopic := ⟨some "events", none, some 5, [⟨some 1, none, some 9⟩, ⟨none, some 0, none⟩]⟩
    let m := ofAnswer .usual "events" [elsewhere, newer]
    let run := Run.fresh (⟨none, none, none, [], [], m, [], none, 0⟩ : Script) .empty
    ofAnswer .usual "events" [older, elsewhere] = m ∧ m.Reports newer
      ∧ ∃ f, (run.resolve Script.client "events" (.zero false) none).1 = .error f ∧ f.name = "TopicError" := by
  intro elsewhere newer older m run
  have hcarries : elsewhere.Carries "other" := .inl ⟨rfl, rfl⟩
  have hnewer : newer.Carries "events" := .inr ⟨rfl, rfl⟩
  have holder : older.Carries "events" := .inl ⟨rfl, rfl⟩
  have hone : DescribedPartition.Carries ⟨none, some 1, some 9⟩ 1 := .inr ⟨rfl, rfl⟩
  have hzero : DescribedPartition.Carries ⟨some 0, none, none⟩ 0 := .inl ⟨rfl, rfl⟩
  have named : ∀ t ∈ [elsewhere, newer], t.Named :=
    List.forall_mem_cons.mpr ⟨⟨⟨_, hcarries⟩, List.forall_mem_nil _⟩,
      List.forall_mem_singleton.mpr ⟨⟨_, hnewer⟩,
        List.forall_mem_cons.mpr ⟨⟨_, hone⟩, List.forall_mem_singleton.mpr ⟨_, hzero⟩⟩⟩⟩
  have hrespelled : newer.Respelled older :=
    { title := ⟨_, hnewer, holder⟩
      code := rfl
      partitions :=
        .cons ⟨⟨_, hone, .inl ⟨rfl, rfl⟩⟩, rfl⟩ (.cons ⟨⟨_, hzero, .inr ⟨rfl, rfl⟩⟩, rfl⟩ .nil) }
  have helsewhere : ¬ elsewhere.Carries "events" := fun h =>
    absurd (hcarries.title?_eq.symm.trans h.title?_eq) (by decide)
  have hfirst : FirstEntry "events" [elsewhere, newer] newer :=
    ⟨[elsewhere], [], rfl, hnewer, List.forall_mem_singleton.mpr helsewhere⟩
  obtain ⟨hcongr, hreports, -, hresolve⟩ := ofAnswer_outcome .usual "events" [elsewhere, newer] named
  obtain ⟨-, htroubled⟩ := hresolve Script.client (.zero false) none run rfl
  refine ⟨?_, ?_, htroubled.mpr ⟨newer, 5, hfirst, rfl, by decide, by decide⟩⟩
  · exact hcongr _ (.removed hcarries (by decide) (.entry hrespelled (.inserted hcarries (by decide) .nil)))
  · have hnewer := hreports newer hfirst
    rwa [if_neg (by decide)] at hnewer

/-- An entry that knows of no such topic wins over the partitions in it. -/
theorem ofAnswer_drops_partitions :
    let unknown : DescribedTopic := ⟨some "events", none, some 3, [⟨some 0, none, some 0⟩]⟩
    (∀ t ∈ [unknown], t.Named) ∧ FirstEntry "events" [unknown] unknown
      ∧ (ofAnswer .usual "events" [unknown]).partitions.length < unknown.partitions.length := by
  intro unknown
  have hcarries : unknown.Carries "events" := .inl ⟨rfl, rfl⟩
  have hnumbers : ∀ p ∈ unknown.partitions, ∃ i, p.Carries i :=
    List.forall_mem_singleton.mpr ⟨0, .inl ⟨rfl, rfl⟩⟩
  refine ⟨List.forall_mem_singleton.mpr ⟨⟨_, hcarries⟩, hnumbers⟩, ?_, by decide⟩
  exact ⟨[], [], rfl, hcarries, List.forall_mem_nil _⟩

end TopicMetadata

end TopicReader
