import TopicReader.Proofs.Transport.Broker
import TopicReader.Proofs.Transport.Marks

/-!
# `Proofs.Transport.Dequeuing` — polls lose nothing, repeat nothing, and tell each end once

A poll hands on what one fetch has brought, and then it asks for the ends of the streams, up to the first failure.
Between polls streams are opened and closed. Here it is shown for any such calls that what polls have brought of a
partition is what fetches have brought of it, in order, also where a later question of the same poll failed; that
records come before ends and ends before a failure; and that an end comes up when it is reached, and only then.

Of the network only this is relied on, as `Network.Reliable`: records come under their own partition, a fetch and a
question for a position fail as requests to the cluster do, and the end of a partition is known or not, without a
request that may fail.

## Contents
- **The network.** `Network.Reliable`; `Network.fetched`: what fetches bring of a partition.
- **Ends that were seen.** `EndSeen`.
- **One poll.** `EndsTold` and `endItems_told` for the ends; `Dequeued` and `poll_dequeued`.
- **All calls.** `Dequeues`, `session_dequeues`.
-/

namespace TopicReader

variable {ν : Type}

/-! ## The network -/

/-- **What is relied on**: records come under their own partition; a fetch and a question for a position fail only as
    requests to the cluster do; and the end of a partition is known or not, but asking for it does not fail. -/
structure Network.Reliable (n : Network ν) : Prop where
  own : ∀ tps ms s data, (n.answer (.getMany tps ms) s).1 = .ok data → ∀ d ∈ data, ∀ r ∈ d.2, r.place = d.1
  fetching : ∀ tps ms s f, (n.answer (.getMany tps ms) s).1 = .error f → f.isBroker = true
  position : ∀ tp s f, (n.answer (.position tp) s).1 = .error f → f.isBroker = true
  ends : ∀ o tp s, ∃ e, endAnswer n o tp s = .ok e

/-- The broker is reliable. -/
theorem Broker.reliable (chunk : Nat) : (Broker.network chunk).Reliable where
  own _ _ _ _ h d hd r hr := (Transport.place_of_fetched (Broker.consumer chunk) h d hd r hr).1
  fetching _ _ _ _ h := by cases h
  position _ _ _ h := by cases h
  ends o tp s := by
    unfold endAnswer
    split
    · exact ⟨_, rfl⟩
    · exact ⟨_, rfl⟩

/-- A network that refuses some requests, and leaves the others to another network. -/
def Network.refusing (n : Network ν) (refusal? : Request → Option Failure) : Network ν where
  answer r s :=
    match refusal? r with
    | some f => (.error f, s)
    | none => n.answer r s
  errors := n.errors

/-- A reliable network may refuse fetches and questions for positions as a cluster does. -/
theorem Network.Reliable.refusing {n : Network ν} (h : n.Reliable) {refusal? : Request → Option Failure}
    (only : ∀ r f, refusal? r = some f → f.isBroker = true ∧ (r.fetches = true ∨ ∃ tp, r = .position tp)) :
    (n.refusing refusal?).Reliable where
  own tps ms s data hok := by
    unfold Network.refusing at hok
    dsimp only at hok
    split at hok
    · cases hok
    · exact h.own tps ms s data hok
  fetching tps ms s f hfailed := by
    unfold Network.refusing at hfailed
    dsimp only at hfailed
    split at hfailed
    · rename_i g hrefused
      cases hfailed
      exact (only _ _ hrefused).1
    · exact h.fetching tps ms s f hfailed
  position tp s f hfailed := by
    unfold Network.refusing at hfailed
    dsimp only at hfailed
    split at hfailed
    · rename_i g hrefused
      cases hfailed
      exact (only _ _ hrefused).1
    · exact h.position tp s f hfailed
  ends o tp s := by
    -- The end of a partition is none of the requests that are refused.
    have hanswered : ∀ r : Request, r.fetches = false → (∀ q, r ≠ .position q) →
        ((n.refusing refusal?).answer r s) = n.answer r s := by
      intro r hfetches hposition
      unfold Network.refusing
      dsimp only
      cases hrefused : refusal? r with
      | none => rfl
      | some f =>
        rcases (only r f hrefused).2 with hfetch | ⟨q, hq⟩
        · rw [hfetches] at hfetch
          cases hfetch
        · exact absurd hq (hposition q)
    obtain ⟨e, he⟩ := h.ends o tp s
    refine ⟨e, ?_⟩
    unfold endAnswer at he ⊢
    rw [hanswered _ rfl (by simp), hanswered _ rfl (by simp)]
    exact he

/-- What one request brings of a partition: a fetch that succeeds may bring records. -/
def Network.brings (n : Network ν) (tp : TopicPartition) (r : Request) (s : ν) : List Record :=
  match r with
  | .getMany tps ms =>
    match (n.answer (.getMany tps ms) s).1 with
    | .ok data => (data.filter (·.1 = tp)).flatMap (·.2)
    | .error _ => []
  | _ => []

/-- **What fetches bring of a partition**, in order. -/
def Network.fetched (n : Network ν) (tp : TopicPartition) : List Request → ν → List Record
  | [], _ => []
  | r :: rest, s => n.brings tp r s ++ n.fetched tp rest (n.answer r s).2

namespace Network

theorem fetched_append (n : Network ν) (tp : TopicPartition) (rs qs : List Request) (s : ν) :
    n.fetched tp (rs ++ qs) s = n.fetched tp rs s ++ n.fetched tp qs (n.after rs s) := by
  induction rs generalizing s with
  | nil => rfl
  | cons r rest ih => rw [List.cons_append, fetched, fetched, ih, List.append_assoc]; rfl

/-- Without a fetch nothing is fetched. -/
theorem fetched_eq_nil (n : Network ν) (tp : TopicPartition) {rs : List Request} (h : ∀ r ∈ rs, r.fetches = false)
    (s : ν) : n.fetched tp rs s = [] := by
  induction rs generalizing s with
  | nil => rfl
  | cons r rest ih =>
    have hone : n.brings tp r s = [] := by
      have hr := h r List.mem_cons_self
      unfold brings
      split
      · cases hr
      · rfl
    rw [fetched, hone, ih fun q hq => h q (List.mem_cons_of_mem _ hq)]
    rfl

end Network

/-! ## Ends that were seen -/

/-- **The end of a partition was asked for** among some requests: it was not known, or it was known and the position
    was asked for next. -/
inductive EndSeen (n : Network ν) (o : TransportOptions) (tp : TopicPartition) :
    List Request → ν → Option (Int × Int) → Prop where
  | unknown (before rest : List Request) {s : ν} (answer : endAnswer n o tp (n.after before s) = .ok none) :
    EndSeen n o tp (before ++ endRequest o tp :: rest) s none
  | known (before rest : List Request) {s : ν} {e p : Int}
    (answer : endAnswer n o tp (n.after before s) = .ok (some e))
    (position : (n.answer (.position tp) (n.after (before ++ [endRequest o tp]) s)).1 = .ok p) :
    EndSeen n o tp (before ++ endRequest o tp :: .position tp :: rest) s (some (e, p))

namespace EndSeen

variable {n : Network ν} {o : TransportOptions} {tp : TopicPartition} {rs qs : List Request} {s : ν}
  {seen : Option (Int × Int)}

/-- What was seen stays seen. -/
theorem append (h : EndSeen n o tp rs s seen) (qs : List Request) : EndSeen n o tp (rs ++ qs) s seen := by
  cases h with
  | unknown before rest answer =>
    rw [List.append_assoc, List.cons_append]
    exact .unknown before _ answer
  | known before rest answer position =>
    rw [List.append_assoc, List.cons_append, List.cons_append]
    exact .known before _ answer position

theorem prepend (h : EndSeen n o tp qs (n.after rs s) seen) : EndSeen n o tp (rs ++ qs) s seen := by
  cases h with
  | unknown before rest answer =>
    rw [← Network.after_append] at answer
    rw [← List.append_assoc]
    exact .unknown _ rest answer
  | known before rest answer position =>
    rw [← Network.after_append] at answer position
    rw [← List.append_assoc] at position ⊢
    exact .known _ rest answer position

end EndSeen

/-- Is it a failure? -/
def Item.isFailure : Item → Bool
  | failed .. => true
  | _ => false

theorem Item.isFailure_of_mem_toList {item : Option Item} (fine : ∀ topic p f, item ≠ some (.failed topic p f)) :
    ∀ x ∈ item.toList, x.isFailure = false := by
  intro x hx
  obtain rfl := Option.mem_toList.mp hx
  cases x with
  | failed topic p f => exact absurd rfl (fine topic p f)
  | record | ended | alien => rfl

/-- Is it the end of a partition? -/
def Item.isEnd : Item → Bool
  | ended .. => true
  | _ => false

namespace Transport

variable {n : Network ν} {o : TransportOptions}

/-- **The end of a stream is not reached**, as far as is known: it was asked for and not known, or it was known and the
    position that was asked for next was before it. -/
def Ahead (n : Network ν) (o : TransportOptions) (tp : TopicPartition) (rs : List Request) (s : ν) : Prop :=
  EndSeen n o tp rs s none ∨ ∃ e p, p < e ∧ EndSeen n o tp rs s (some (e, p))

/-- An end that is not reached, as far as some requests have seen, is not reached as far as more requests have seen. -/
theorem Ahead.mono {tp : TopicPartition} {rs qs : List Request} {s s' : ν} (h : Ahead n o tp rs s)
    (more : ∀ {seen}, EndSeen n o tp rs s seen → EndSeen n o tp qs s' seen) : Ahead n o tp qs s' := by
  rcases h with hunknown | ⟨e, p, hlt, hseen⟩
  · exact .inl (more hunknown)
  · exact .inr ⟨e, p, hlt, more hseen⟩

/-! ## One poll -/

/-- **What asking for the ends of some streams brings**: ends, and behind them at most one failure. An end that comes up
    is reached; and without a failure the end of each stream counts as told, or it is not reached. -/
structure EndsTold (n : Network ν) (o : TransportOptions) (tps : List TopicPartition) (rs : List Request)
    (t t' : Transport ν) (items : List Item) : Prop where
  inquires : Inquires n rs t t'
  ordered : ∃ ends failures, items = ends ++ failures ∧ (∀ x ∈ ends, x.isEnd = true)
    ∧ (∀ x ∈ failures, x.isFailure = true) ∧ failures.length ≤ 1
  reached : ∀ topic p offset, .ended topic p offset ∈ items → ⟨topic, p⟩ ∈ tps
    ∧ ∃ e, e ≤ offset ∧ EndSeen n o ⟨topic, p⟩ rs t.network (some (e, offset))
  keeps : ∀ tp ∈ t.ended, tp ∈ t'.ended
  complete : (∀ x ∈ items, x.isFailure = false) → ∀ tp ∈ tps, tp ∈ t'.ended ∨ Ahead n o tp rs t.network
  once : ∀ marks, TellsOnce marks t.ended → TellsOnce (marks ++ items.map .item) t'.ended

theorem EndsTold.nil (t : Transport ν) : EndsTold n o [] [] t t [] where
  inquires := .refl t
  ordered := ⟨[], [], rfl, List.forall_mem_nil _, List.forall_mem_nil _, Nat.zero_le 1⟩
  reached _ _ _ h := absurd h List.not_mem_nil
  keeps _ h := h
  complete _ := List.forall_mem_nil _
  once marks h := by rw [List.map_nil, List.append_nil]; exact h

/-- **One stream.** -/
theorem Checks.endsTold {tp : TopicPartition} {t t' : Transport ν} {rs : List Request} {item : Option Item}
    (h : Checks n o tp t rs (.ok item) t'.ended) (inquires : Inquires n rs t t') :
    EndsTold n o [tp] rs t t' item.toList := by
  have honce : ∀ marks, TellsOnce marks t.ended → TellsOnce (marks ++ item.toList.map .item) t'.ended :=
    fun marks hmarks => hmarks.checks h
  have hnothing : ∃ ends failures, (none : Option Item).toList = ends ++ failures ∧ (∀ x ∈ ends, x.isEnd = true)
      ∧ (∀ x ∈ failures, x.isFailure = true) ∧ failures.length ≤ 1 :=
    ⟨[], [], rfl, List.forall_mem_nil _, List.forall_mem_nil _, Nat.zero_le 1⟩
  generalize hended : t'.ended = told at h
  cases h with
  | known told =>
    refine ⟨inquires, hnothing, fun _ _ _ h => absurd h List.not_mem_nil, fun q hq => hended ▸ hq, ?_, honce⟩
    intro _ q hq
    rw [List.mem_singleton.mp hq, hended]
    exact .inl told
  | unknown new answer =>
    refine ⟨inquires, hnothing, fun _ _ _ h => absurd h List.not_mem_nil, fun q hq => hended ▸ hq, ?_, honce⟩
    intro _ q hq
    rw [List.mem_singleton.mp hq]
    exact .inr (.inl (.unknown [] [] answer))
  | lost =>
    refine ⟨inquires, ⟨[], _, rfl, List.forall_mem_nil _, ?_, Nat.le_refl 1⟩, ?_, fun q hq => hended ▸ hq, ?_,
      honce⟩
    · exact List.forall_mem_singleton.mpr rfl
    · intro topic p offset hmem
      cases List.mem_singleton.mp hmem
    · intro hfine
      have hfailure := hfine _ List.mem_cons_self
      cases hfailure
  | before new answer position more =>
    refine ⟨inquires, hnothing, fun _ _ _ h => absurd h List.not_mem_nil, fun q hq => hended ▸ hq, ?_, honce⟩
    intro _ q hq
    rw [List.mem_singleton.mp hq]
    exact .inr (.inr ⟨_, _, more, .known [] [] answer position⟩)
  | reached new answer position behind =>
    refine ⟨inquires, ⟨_, [], (List.append_nil _).symm, ?_, List.forall_mem_nil _, Nat.zero_le 1⟩, ?_, ?_, ?_,
      honce⟩
    · exact List.forall_mem_singleton.mpr rfl
    · intro topic p offset hmem
      cases List.mem_singleton.mp hmem
      exact ⟨List.mem_cons_self, _, behind, .known [] [] answer position⟩
    · intro q hq
      rw [hended]
      exact List.mem_cons_of_mem _ hq
    · intro _ q hq
      rw [List.mem_singleton.mp hq, hended]
      exact .inl List.mem_cons_self

/-- One stream, and those behind it: nothing has failed so far. -/
theorem EndsTold.cons {tp : TopicPartition} {rest : List TopicPartition} {rs qs : List Request}
    {t₁ t₂ t₃ : Transport ν} {is js : List Item} (h : EndsTold n o [tp] rs t₁ t₂ is)
    (fine : ∀ x ∈ is, x.isFailure = false) (g : EndsTold n o rest qs t₂ t₃ js) :
    EndsTold n o (tp :: rest) (rs ++ qs) t₁ t₃ (is ++ js) := by
  have hprepend : ∀ {q seen}, EndSeen n o q qs t₂.network seen → EndSeen n o q (rs ++ qs) t₁.network seen := by
    intro q seen hseen
    rw [h.inquires.asked.network] at hseen
    exact hseen.prepend
  refine ⟨h.inquires.trans g.inquires, ?_, ?_, fun q hq => g.keeps q (h.keeps q hq), ?_, ?_⟩
  · obtain ⟨ends, failures, rfl, hends, hfailures, -⟩ := h.ordered
    obtain ⟨more, others, rfl, hmore, hothers, hlength⟩ := g.ordered
    -- The first part has no failure, so it is nothing but ends.
    have hnone : failures = [] := by
      refine List.eq_nil_iff_forall_not_mem.mpr fun x hx => ?_
      have hfailure := hfailures x hx
      rw [fine x (List.mem_append_right _ hx)] at hfailure
      cases hfailure
    refine ⟨ends ++ more, others, ?_, List.forall_mem_append.mpr ⟨hends, hmore⟩, hothers, hlength⟩
    rw [hnone, List.append_nil, List.append_assoc]
  · intro topic p offset hmem
    rcases List.mem_append.mp hmem with hmem | hmem
    · obtain ⟨hopen, e, hle, hseen⟩ := h.reached topic p offset hmem
      exact ⟨List.mem_cons.mpr (.inl (List.mem_singleton.mp hopen)), e, hle, hseen.append qs⟩
    · obtain ⟨hopen, e, hle, hseen⟩ := g.reached topic p offset hmem
      exact ⟨List.mem_cons_of_mem _ hopen, e, hle, hprepend hseen⟩
  · intro hfine
    obtain ⟨hfirst, hothers⟩ := List.forall_mem_append.mp hfine
    refine List.forall_mem_cons.mpr ⟨?_, fun q hq => ?_⟩
    · rcases h.complete hfirst tp List.mem_cons_self with htold | hahead
      · exact .inl (g.keeps tp htold)
      · exact .inr (hahead.mono fun hseen => hseen.append qs)
    · rcases g.complete hothers q hq with htold | hahead
      · exact .inl htold
      · exact .inr (hahead.mono hprepend)
  · intro marks honce
    rw [List.map_append, ← List.append_assoc]
    exact g.once _ (h.once marks honce)

/-- Behind a failure nothing more is asked for. -/
theorem EndsTold.cut {tp : TopicPartition} {rs : List Request} {t t' : Transport ν} {is : List Item}
    (h : EndsTold n o [tp] rs t t' is) {x : Item} (mem : x ∈ is) (failed : x.isFailure = true)
    (rest : List TopicPartition) : EndsTold n o (tp :: rest) rs t t' is where
  inquires := h.inquires
  ordered := h.ordered
  reached topic p offset hmem := by
    obtain ⟨hopen, hseen⟩ := h.reached topic p offset hmem
    exact ⟨List.mem_cons.mpr (.inl (List.mem_singleton.mp hopen)), hseen⟩
  keeps := h.keeps
  complete hfine := by
    rw [hfine x mem] at failed
    cases failed
  once := h.once

/-- **Asking for the ends of some streams** comes to such items, if the network is reliable. -/
theorem endItems_told (reliable : n.Reliable) (o : TransportOptions) (tps : List TopicPartition) (t : Transport ν) :
    ∃ items t' rs, t.endItems n o tps = (.ok items, t') ∧ EndsTold n o tps rs t t' items := by
  induction tps generalizing t with
  | nil => exact ⟨[], t, [], rfl, .nil t⟩
  | cons tp rest ih =>
    obtain ⟨rs, hinquires, hchecks⟩ := endItem_checks n o tp t
    cases hitem : t.endItem n o tp with
    | mk result t₁ =>
    rw [hitem] at hinquires hchecks
    dsimp only at hinquires hchecks
    -- Asking for one end fails only where the network is not reliable.
    have hok : ∃ item, result = .ok item := by
      generalize t₁.ended = told at hchecks
      cases hchecks with
      | known | unknown | lost | before | reached => exact ⟨_, rfl⟩
      | unanswered new answer =>
        obtain ⟨e, he⟩ := reliable.ends o tp t.network
        rw [he] at answer
        cases answer
      | broken new answer position broker =>
        rw [reliable.position _ _ _ position] at broker
        cases broker
    obtain ⟨item, rfl⟩ := hok
    have hone := hchecks.endsTold hinquires
    by_cases hfailed : ∃ topic p f, item = some (.failed topic p f)
    · obtain ⟨topic, p, f, rfl⟩ := hfailed
      exact ⟨_, t₁, rs, endItems_of_failed hitem rest, hone.cut List.mem_cons_self rfl rest⟩
    · have hfine : ∀ topic p f, item ≠ some (.failed topic p f) := fun topic p f heq => hfailed ⟨topic, p, f, heq⟩
      obtain ⟨others, t₂, qs, hothers, hmore⟩ := ih t₁
      refine ⟨item.toList ++ others, t₂, rs ++ qs, ?_, hone.cons (Item.isFailure_of_mem_toList hfine) hmore⟩
      rw [endItems_of_fine hitem hfine, hothers]
      rfl

/-- **What a poll brings**, after some marks: of each partition the records that its fetch has brought, then ends, and
    behind them at most one failure. An end that comes up is that of an open stream, and the position that was told is
    not before the end that was told then. And where nothing failed, the end of each open stream is signalled after
    the poll, or it is not reached. -/
structure Dequeued (n : Network ν) (o : TransportOptions) (marks : List Mark) (qs : List Request)
    (t t' : Transport ν) (items : List Item) : Prop where
  asked : Asked n qs t t'
  ordered : ∃ (records : List Record) (ends failures : List Item), items = records.map .record ++ ends ++ failures
    ∧ (∀ x ∈ ends, x.isEnd = true) ∧ (∀ x ∈ failures, x.isFailure = true) ∧ failures.length ≤ 1
  records : ∀ tp, (recordsIn items).filter (·.place = tp) = n.fetched tp qs t.network
  reached : ∀ topic p offset, .ended topic p offset ∈ items → ⟨topic, p⟩ ∈ t.streams.map (·.1)
    ∧ ∃ e, e ≤ offset ∧ EndSeen n o ⟨topic, p⟩ qs t.network (some (e, offset))
  complete : (∀ x ∈ items, x.isFailure = false) → ∀ tp ∈ t.streams.map (·.1),
    Signalled tp (marks ++ items.map .item) ∨ Ahead n o tp qs t.network

/-- A fetch takes the streams that it has brought records of out of those whose end was told. -/
theorem mem_take_ended {data : List (TopicPartition × List Record)} (own : ∀ d ∈ data, ∀ r ∈ d.2, r.place = d.1)
    (t : Transport ν) (tp : TopicPartition) :
    tp ∈ (t.take data).2.ended ↔ tp ∈ t.ended ∧ ∀ r ∈ data.flatMap (·.2), r.place ≠ tp := by
  rw [take, List.mem_filter]
  refine and_congr_right fun _ => ?_
  rw [Bool.not_eq_true', ← Bool.not_eq_true, List.contains_iff_mem]
  constructor
  · intro hidle r hr heq
    obtain ⟨d, hd, hmem⟩ := List.mem_flatMap.mp hr
    refine hidle (List.mem_map.mpr ⟨d, List.mem_filter.mpr ⟨hd, ?_⟩, (own d hd r hmem).symm.trans heq⟩)
    rw [Bool.not_eq_true', List.isEmpty_eq_false_iff]
    exact List.ne_nil_of_mem hmem
  · intro hnone hbusy
    obtain ⟨d, hd, rfl⟩ := List.mem_map.mp hbusy
    obtain ⟨hmem, hsome⟩ := List.mem_filter.mp hd
    rw [Bool.not_eq_true', List.isEmpty_eq_false_iff] at hsome
    obtain ⟨r, hr⟩ := List.exists_mem_of_ne_nil _ hsome
    exact hnone r (List.mem_flatMap.mpr ⟨d, hmem, hr⟩) (own d hmem r hr)

/-- Ends and failures are no records. -/
theorem EndsTold.recordsIn {tps : List TopicPartition} {rs : List Request} {t t' : Transport ν} {items : List Item}
    (h : EndsTold n o tps rs t t' items) : recordsIn items = [] := by
  obtain ⟨ends, failures, rfl, hends, hfailures, -⟩ := h.ordered
  refine List.filterMap_eq_nil_iff.mpr fun x hx => ?_
  rcases List.mem_append.mp hx with hend | hfailure
  · match x, hends x hend with
    | .ended .., _ => rfl
  · match x, hfailures x hfailure with
    | .failed .., _ => rfl

/-- A fetch brings records, and the ends are asked for behind them. -/
theorem fetched_dequeued (reliable : n.Reliable) (o : TransportOptions) {marks : List Mark} {t t₁ : Transport ν}
    (once : TellsOnce marks t.ended) {ms : Int} {data : List (TopicPartition × List Record)}
    (asked : t.ask n (.getMany (t.streams.map (·.1)) ms) = (.ok data, t₁)) :
    ∃ items qs t', t₁.collect n o (t.streams.map (·.1)) data = (.ok items, t')
      ∧ Dequeued n o marks qs t t' items ∧ TellsOnce (marks ++ items.map .item) t'.ended := by
  obtain ⟨hasked, hdata, -⟩ := ask_asked asked
  obtain ⟨-, hended, -⟩ := ask_keeps asked
  have hown := reliable.own _ _ _ data hdata
  obtain ⟨ends, t', rs, hends, htold⟩ := endItems_told reliable o (t.streams.map (·.1)) (t₁.take data).2
  have hitems : (t₁.take data).1 ++ ends = (data.flatMap (·.2)).map .record ++ ends := by
    rw [take, List.map_flatMap]
  have hcollect : t₁.collect n o (t.streams.map (·.1)) data = (.ok ((data.flatMap (·.2)).map .record ++ ends), t') := by
    rw [← hitems]
    unfold collect
    simp only [hends]
  -- What the questions have seen, they have seen behind the fetch.
  have hbehind : ∀ {q seen}, EndSeen n o q rs (t₁.take data).2.network seen →
      EndSeen n o q (.getMany (t.streams.map (·.1)) ms :: rs) t.network seen := by
    intro q seen hseen
    have hnetwork : (t₁.take data).2.network = n.after [.getMany (t.streams.map (·.1)) ms] t.network := hasked.network
    rw [hnetwork] at hseen
    exact hseen.prepend
  have honce : TellsOnce (marks ++ ((data.flatMap (·.2)).map Item.record ++ ends).map .item) t'.ended := by
    rw [List.map_append, ← List.append_assoc]
    refine htold.once _ (once.records _ fun tp => ?_)
    rw [mem_take_ended hown, hended]
  refine ⟨_, .getMany (t.streams.map (·.1)) ms :: rs, t', hcollect, ⟨?_, ?_, ?_, ?_, ?_⟩, honce⟩
  · have htake : Asked n [] t₁ (t₁.take data).2 := ⟨rfl, rfl⟩
    exact (hasked.trans htake).trans htold.inquires.asked
  · -- The records of the fetch are first; behind them there is what the ends have brought.
    obtain ⟨first, failures, rfl, hfirst, hfailures, hlength⟩ := htold.ordered
    exact ⟨data.flatMap (·.2), first, failures, (List.append_assoc _ _ _).symm, hfirst, hfailures, hlength⟩
  · intro tp
    have hbrought : n.brings tp (.getMany (t.streams.map (·.1)) ms) t.network
        = (data.filter (·.1 = tp)).flatMap (·.2) := by
      simp only [Network.brings, hdata]
    rw [recordsIn_append, recordsIn_map_record, htold.recordsIn, List.append_nil, filter_place_eq hown]
    show _ = n.brings tp _ _ ++ n.fetched tp rs _
    rw [hbrought, n.fetched_eq_nil tp fun r hr => (htold.inquires.questions r hr).2.1, List.append_nil]
  · intro topic p offset hmem
    rcases List.mem_append.mp hmem with hrecord | hend
    · obtain ⟨r, -, heq⟩ := List.mem_map.mp hrecord
      cases heq
    · obtain ⟨hopen, e, hle, hseen⟩ := htold.reached topic p offset hend
      exact ⟨hopen, e, hle, hbehind hseen⟩
  · intro hfine tp htp
    rcases htold.complete (fun x hx => hfine x (List.mem_append_right _ hx)) tp htp with hsignalled | hahead
    · exact .inl ((honce.told tp).mp hsignalled)
    · exact .inr (hahead.mono hbehind)

/-- **Every poll** brings this, unless its wait is none: then it asks for nothing. -/
theorem Polls.dequeued (reliable : n.Reliable) {marks : List Mark} {t t' : Transport ν}
    (consistent : Consistent t) (once : TellsOnce marks t.ended) {seconds : Double}
    {result : Except Failure (List Item)} (h : Polls n o seconds t result t') :
    (∃ items qs, result = .ok items ∧ Dequeued n o marks qs t t' items
        ∧ TellsOnce (marks ++ items.map .item) t'.ended)
      ∨ ∃ f, milliseconds seconds = .error f ∧ result = .error f ∧ t' = t := by
  cases h with
  | closed none =>
    -- No stream is open: nothing is asked for, and nothing is due.
    refine .inl ⟨[], [], rfl, ⟨.refl t, ⟨[], [], [], rfl, ?_, ?_, Nat.zero_le 1⟩, fun _ => rfl, ?_, ?_⟩, ?_⟩
    · exact List.forall_mem_nil _
    · exact List.forall_mem_nil _
    · exact fun _ _ _ hmem => absurd hmem List.not_mem_nil
    · intro _
      rw [none]
      exact List.forall_mem_nil _
    · rw [List.map_nil, List.append_nil]
      exact once
  | unheld some unheld =>
    -- Streams are open only where there is a consumer.
    rw [consistent.held some] at unheld
    cases unheld
  | untimed some wait => exact .inr ⟨_, wait, rfl, rfl⟩
  | @unfetched ms f _ topic some wait asked =>
    obtain ⟨hasked, hanswer, -⟩ := ask_asked asked
    obtain ⟨-, hended, -⟩ := ask_keeps asked
    -- The fetch failed as requests to the cluster do, so the failure is handed on as an item.
    have hbroker := reliable.fetching _ _ _ f hanswer
    refine .inl ⟨_, _, if_pos hbroker, ⟨hasked, ⟨[], [], _, rfl, ?_, ?_, Nat.le_refl 1⟩, ?_, ?_, ?_⟩, ?_⟩
    · exact List.forall_mem_nil _
    · exact List.forall_mem_singleton.mpr rfl
    · intro tp
      have hbrought : n.brings tp (.getMany (t.streams.map (·.1)) ms) t.network = [] := by
        simp only [Network.brings, hanswer]
      show _ = n.brings tp _ _ ++ []
      rw [hbrought]
      rfl
    · intro topic p offset hmem
      cases List.mem_singleton.mp hmem
    · intro hfine
      have hfailure := hfine _ List.mem_cons_self
      cases hfailure
    · rw [hended]
      exact once.failure topic _ f
  | fetched some wait asked =>
    obtain ⟨items, qs, t', hcollect, hdequeued, honce⟩ := fetched_dequeued reliable o once asked
    rw [hcollect]
    exact .inl ⟨items, qs, rfl, hdequeued, honce⟩

end Transport

/-! ## All calls -/

/-- The items that a call has brought. -/
def Served.items : Served → List Item
  | ⟨.poll _, .ok items⟩ => items
  | _ => []

/-- The items that calls have brought. -/
def itemsOf (hs : List Served) : List Item := hs.flatMap Served.items

theorem itemsOf_snoc (hs : List Served) (h : Served) : itemsOf (hs ++ [h]) = itemsOf hs ++ h.items := by
  rw [itemsOf, List.flatMap_append, List.flatMap_singleton]
  rfl

namespace Transport

variable {n : Network ν} {o : TransportOptions}

/-- What was asked between two states, where the records of some items are those that it fetched. -/
def Fetches (n : Network ν) (items : List Item) (t t' : Transport ν) : Prop :=
  ∃ rs, Asked n rs t t' ∧ ∀ tp, (recordsIn items).filter (·.place = tp) = n.fetched tp rs t.network

theorem Fetches.trans {is js : List Item} {t₁ t₂ t₃ : Transport ν} (h : Fetches n is t₁ t₂) (g : Fetches n js t₂ t₃) :
    Fetches n (is ++ js) t₁ t₃ := by
  obtain ⟨rs, hasked, hrecords⟩ := h
  obtain ⟨qs, gasked, grecords⟩ := g
  refine ⟨rs ++ qs, hasked.trans gasked, fun tp => ?_⟩
  rw [recordsIn_append, List.filter_append, hrecords, grecords, n.fetched_append, hasked.network]

/-- Whoever does not read fetches nothing. -/
theorem Quietly.fetches {t t' : Transport ν} (h : Quietly n t t') : Fetches n [] t t' := by
  obtain ⟨rs, hasked, hquiet⟩ := h
  refine ⟨rs, hasked, fun tp => ?_⟩
  rw [n.fetched_eq_nil tp fun r hr => ?_]
  · rfl
  · have hreads := hquiet r hr
    cases r with
    | getMany => cases hreads
    | _ => rfl

/-- **What holds of a transport after some calls**: its streams are consistent, the ends that count as told are those
    that are signalled, and the items hold the records that were fetched. -/
structure Dequeues (n : Network ν) (t₀ : Transport ν) (hs : List Served) (t : Transport ν) : Prop where
  consistent : Consistent t
  once : TellsOnce (marksOf hs) t.ended
  fetches : Fetches n (itemsOf hs) t₀ t

/-- **Every call** preserves it. -/
theorem Dequeues.performs (reliable : n.Reliable) {t₀ t t' : Transport ν} {hs : List Served}
    (h : Dequeues n t₀ hs t) {call : StreamCall} {result : Except Failure (List Item)}
    (g : Performs n o t call result t') : Dequeues n t₀ (hs ++ [⟨call, result⟩]) t' := by
  refine ⟨h.consistent.performs g, ?_, ?_⟩
  · rw [marksOf_snoc]
    cases g with
    | opened opens =>
      refine h.once.reset (.inl rfl) fun q => ?_
      rw [opens.ended, List.mem_filter]
      simp
    | unopened leaves =>
      show TellsOnce (marksOf hs ++ []) t'.ended
      rw [leaves.ended, List.append_nil]
      exact h.once
    | closed isOpen closes =>
      refine h.once.reset (.inr rfl) fun q => ?_
      rw [closes.ended, List.mem_filter]
      simp
    | unclosed isClosed =>
      -- The end of a stream that is not open does not count as told.
      refine h.once.reset (.inr rfl) fun q => ?_
      exact ⟨fun hq => ⟨hq, fun heq => isClosed (heq ▸ h.consistent.ended q hq)⟩, And.left⟩
    | polled polls =>
      rcases polls.dequeued reliable h.consistent h.once with ⟨items, qs, rfl, -, honce⟩ | ⟨f, -, rfl, rfl⟩
      · exact honce
      · show TellsOnce (marksOf hs ++ []) t'.ended
        rw [List.append_nil]
        exact h.once
  · rw [itemsOf_snoc]
    cases g with
    | opened opens =>
      refine h.fetches.trans (Quietly.fetches ⟨_, opens.asked, ?_⟩)
      exact List.forall_mem_cons.mpr ⟨rfl, fun r hr => (opens.others r hr).2⟩
    | unopened leaves => exact h.fetches.trans leaves.quietly.fetches
    | closed isOpen closes =>
      exact h.fetches.trans (Quietly.fetches ⟨_, closes.asked, List.forall_mem_singleton.mpr rfl⟩)
    | unclosed isClosed => exact h.fetches.trans (Quietly.refl t).fetches
    | polled polls =>
      rcases polls.dequeued reliable h.consistent h.once with ⟨items, qs, rfl, hdequeued, -⟩ | ⟨f, -, rfl, rfl⟩
      · exact h.fetches.trans ⟨qs, hdequeued.asked, hdequeued.records⟩
      · exact h.fetches.trans (Quietly.refl t').fetches

/-- **Polls lose nothing, repeat nothing, and tell each end once.** After any calls that open, close and read streams,
    over a reliable network, the records of each partition among the items are those that were fetched of it, in
    order; between two ends of one partition there is a record of it, or the stream was opened or closed; and the next
    poll brings records, then ends that are reached, then at most one failure, and leaves no end untold that is
    reached, unless it fails. -/
theorem session_dequeues (n : Network ν) (reliable : n.Reliable) (o : TransportOptions) (t₀ : Transport ν)
    (closed : t₀.streams = []) (untold : t₀.ended = []) (calls : List StreamCall) :
    let hs := served n o calls t₀
    let t := afterCalls n o calls t₀
    Fetches n (itemsOf hs) t₀ t
      ∧ (∀ tp before x middle y rest, marksOf hs = before ++ x :: (middle ++ y :: rest) →
          x.tells tp = true → y.tells tp = true → ∃ m ∈ middle, m.rearms tp = true)
      ∧ ∀ seconds ms, milliseconds seconds = .ok ms → ∃ items qs, (t.poll n o seconds).1 = .ok items
          ∧ Dequeued n o (marksOf hs) qs t (t.poll n o seconds).2 items := by
  intro hs t
  have hstart : Dequeues n t₀ [] t₀ := by
    refine ⟨.of_closed closed untold, ?_, (Quietly.refl t₀).fetches⟩
    rw [untold]
    exact .nil
  have hall : Dequeues n t₀ hs t := session_induction hstart
    (fun _ _ call h => h.performs reliable (perform_performs h.consistent call)) calls
  refine ⟨hall.fetches, ?_, ?_⟩
  · intro tp before x middle y rest heq hx hy
    exact hall.once.between heq hx hy
  · intro seconds ms wait
    rcases (poll_polls n o seconds t).dequeued reliable hall.consistent hall.once with
      ⟨items, qs, hok, hdequeued, -⟩ | ⟨f, hwait, -, -⟩
    · exact ⟨items, qs, hok, hdequeued⟩
    · rw [wait] at hwait
      cases hwait

/-- A broker that does not tell the position of the second partition: the records of both partitions are brought in
    each poll, and the end of the first one is told again when there was a record. -/
theorem session_dequeues_of_broker :
    let lost : Failure := .foreign ⟨"KafkaConnectionError", .broker, "coordinator gone", "", none⟩
    let n := (Broker.network 2).refusing fun
      | .position ⟨_, 1⟩ => some lost
      | _ => none
    let o : TransportOptions := ⟨.usual, [], fun _ => .ok ()⟩
    let t₀ : Transport Broker := { Transport.idle Broker.pair with hasConsumer := true }
    let calls : List StreamCall := [.openStream "events" 0 (.offset .earliest),
      .openStream "events" 1 (.offset .earliest), .poll (.zero false)]
    let t := afterCalls n o calls t₀
    n.Reliable ∧ t₀.streams = [] ∧ t₀.ended = []
      ∧ (recordsIn (itemsOf (served n o calls t₀))).map (·.offset) = [0, 1, 0, 1]
      ∧ ∃ items qs, (t.poll n o (.zero false)).1 = .ok items
        ∧ Dequeued n o (marksOf (served n o calls t₀)) qs t (t.poll n o (.zero false)).2 items
        ∧ (recordsIn items).map (·.offset) = [2, 2, 3] ∧ items.map Item.isEnd = [false, false, false, true, false]
        ∧ items.map Item.isFailure = [false, false, false, false, true] := by
  intro lost n o t₀ calls t
  have hreliable : n.Reliable := by
    refine (Broker.reliable 2).refusing fun r f hrefused => ?_
    split at hrefused
    · cases hrefused
      exact ⟨rfl, .inr ⟨_, rfl⟩⟩
    · cases hrefused
  obtain ⟨-, -, hpoll⟩ := session_dequeues n hreliable o t₀ rfl rfl calls
  have hwait : milliseconds (.zero false) = .ok 0 := ok_of_toOption (by decide +kernel)
  obtain ⟨items, qs, hok, hdequeued⟩ := hpoll (.zero false) 0 hwait
  have hbefore : (recordsIn (itemsOf (served n o calls t₀))).map (·.offset) = [0, 1, 0, 1] := by decide +kernel
  have hvalue : (t.poll n o (.zero false)).1.toOption.map (fun items =>
      ((recordsIn items).map (·.offset), items.map Item.isEnd, items.map Item.isFailure))
        = some ([2, 2, 3], [false, false, false, true, false], [false, false, false, false, true]) := by
    decide +kernel
  rw [hok] at hvalue
  simp only [Except.toOption, Option.map_some, Option.some.injEq, Prod.mk.injEq] at hvalue
  obtain ⟨hrecords, hends, hfailures⟩ := hvalue
  exact ⟨hreliable, rfl, rfl, hbefore, items, qs, hok, hdequeued, hrecords, hends, hfailures⟩

end Transport

end TopicReader
