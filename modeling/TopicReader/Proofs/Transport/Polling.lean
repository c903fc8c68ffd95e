import TopicReader.Proofs.Run.Reading
import TopicReader.Proofs.Transport.Placing

/-!
# `Proofs.Transport.Polling` — what polls bring

A poll fetches, and then it asks for the ends of the partitions. `Brings` says of one poll, and of many polls that
follow each other, that the records of each partition are what its log holds between the position before and the
position after, and that no end comes up that was not told.

## Contents
- **Bringing.** `Brings`, `Brings.trans`.
- **Ends.** `Checks` and `endItem_checks`: what asking for one end can come to; `endItems_of_failed` and
  `endItems_of_fine`: what that means for the next ones; `endItem_brings`, `endItems_brings`: questions move no
  position; `endItems_inquires`.
- **Fetching.** `take_brings`.
- **Polling.** `Polls` and `poll_polls`: what a poll can come to; `Polls.inquires`, `poll_brings`.
-/

namespace TopicReader.Transport

variable {ν : Type} {n : Network ν}

/-! ## Bringing -/

/-- **What was brought** between two states of a transport: of each partition the records between its two
    positions, and ends only of open streams that were told. The position was left where it was, or it is at most
    just behind a record. -/
structure Brings (C : LogConsumer n) (o : TransportOptions) (rs : List Request) (t t' : Transport ν)
    (items : List Item) : Prop where
  asked : Asked n rs t t'
  reads : ∀ r ∈ rs, r.reads = true
  streams : t'.streams = t.streams
  own : ∀ r ∈ recordsIn items, r.place ∈ t.streams.map (·.1)
  records : ∀ tp, (recordsIn items).filter (·.place = tp)
    = (C.log t'.network tp).filter (Record.isBetween (C.position t.network tp) (C.position t'.network tp))
  reached : ∀ tp, C.position t'.network tp = C.position t.network tp
    ∨ ∃ r ∈ C.log t'.network tp, C.position t'.network tp ≤ r.offset + 1
  told : ∀ topic p offset, .ended topic p offset ∈ items →
    ⟨topic, p⟩ ∈ t.streams.map (·.1) ∧ ∃ e, Told n o ⟨topic, p⟩ rs t.network e

namespace Brings

variable {C : LogConsumer n} {o : TransportOptions}

/-- Questions bring no records and move no position. -/
theorem of_questions {rs : List Request} {t t' : Transport ν} {items : List Item} (asked : Asked n rs t t')
    (questions : ∀ r ∈ rs, r.reads = true ∧ ∀ tp, r.moves tp = false) (streams : t'.streams = t.streams)
    (none : recordsIn items = []) (told : ∀ topic p offset, .ended topic p offset ∈ items →
      ⟨topic, p⟩ ∈ t.streams.map (·.1) ∧ ∃ e, Told n o ⟨topic, p⟩ rs t.network e) :
    Brings C o rs t t' items := by
  have hstays : ∀ tp, C.position t'.network tp = C.position t.network tp := by
    intro tp
    rw [asked.network]
    exact C.position_after (fun r hr => (questions r hr).2 tp) t.network
  refine ⟨asked, fun r hr => (questions r hr).1, streams, ?_, fun tp => ?_, fun tp => .inl (hstays tp), told⟩
  · rw [none]; exact List.forall_mem_nil _
  · rw [none, hstays, filter_between_self]; rfl

theorem refl (t : Transport ν) : Brings C o [] t t [] :=
  of_questions (.refl t) (List.forall_mem_nil _) rfl rfl
    fun _ _ _ h => absurd h List.not_mem_nil

theorem position_le {rs : List Request} {t t' : Transport ν} {items : List Item}
    (h : Brings C o rs t t' items) (tp : TopicPartition) : C.position t.network tp ≤ C.position t'.network tp := by
  rw [h.asked.network]
  exact C.position_le_after h.reads t.network tp

/-- What was brought is still in the log later on, and nothing has come in between. -/
theorem records_later {rs : List Request} {t t' : Transport ν} {items : List Item}
    (h : Brings C o rs t t' items) {s : ν} {qs : List Request} (later : s = n.after qs t'.network)
    (tp : TopicPartition) : (recordsIn items).filter (·.place = tp)
      = (C.log s tp).filter (Record.isBetween (C.position t.network tp) (C.position t'.network tp)) := by
  rw [h.records, later]
  exact (filter_between_of_growth (C.log_after qs t'.network tp) (C.increasing _ tp) (h.reached tp)).symm

/-- **What follows each other** brings one after the other, without a gap and without anything twice. -/
theorem trans {rs qs : List Request} {t₁ t₂ t₃ : Transport ν} {is js : List Item} (h : Brings C o rs t₁ t₂ is)
    (g : Brings C o qs t₂ t₃ js) : Brings C o (rs ++ qs) t₁ t₃ (is ++ js) where
  asked := h.asked.trans g.asked
  reads := List.forall_mem_append.mpr ⟨h.reads, g.reads⟩
  streams := g.streams.trans h.streams
  own := by
    rw [recordsIn_append]
    exact List.forall_mem_append.mpr ⟨h.own, h.streams ▸ g.own⟩
  records := by
    intro tp
    -- The log has grown since the first part, but not before the position that was reached there.
    rw [recordsIn_append, List.filter_append, h.records_later g.asked.network, g.records]
    exact filter_between_append (C.increasing _ tp) (h.position_le tp) (g.position_le tp)
  reached := by
    intro tp
    rcases g.reached tp with hsame | hnew
    · rw [hsame]
      refine (h.reached tp).imp_right fun ⟨r, hr, hle⟩ => ⟨r, ?_, hle⟩
      rw [g.asked.network]
      exact (C.log_after qs t₂.network tp).subset hr
    · exact .inr hnew
  told := by
    intro topic p offset hmem
    rcases List.mem_append.mp hmem with hmem | hmem
    · obtain ⟨hopen, e, htold⟩ := h.told topic p offset hmem
      exact ⟨hopen, e, htold.append qs⟩
    · obtain ⟨hopen, e, htold⟩ := g.told topic p offset hmem
      rw [h.asked.network] at htold
      exact ⟨h.streams ▸ hopen, e, htold.prepend⟩

end Brings

variable {C : LogConsumer n} {o : TransportOptions}

/-! ## Ends -/

theorem endRequest_question (o : TransportOptions) (tp : TopicPartition) :
    (endRequest o tp).reads = true ∧ (endRequest o tp).fetches = false ∧ ∀ q, (endRequest o tp).moves q = false := by
  unfold endRequest
  split
  · exact ⟨rfl, rfl, fun _ => rfl⟩
  · exact ⟨rfl, rfl, fun _ => rfl⟩

theorem endOf_asked {tp : TopicPartition} {t t' : Transport ν} {result : Except Failure (Option Int)}
    (h : t.endOf n o tp = (result, t')) :
    Asked n [endRequest o tp] t t' ∧ endAnswer n o tp t.network = result ∧ t'.streams = t.streams
      ∧ t'.ended = t.ended ∧ t'.hasConsumer = t.hasConsumer := by
  unfold endOf at h
  unfold endRequest endAnswer
  by_cases hcommitted : committedOnly o = true
  · rw [if_pos hcommitted] at h ⊢
    rw [if_pos hcommitted]
    cases h
    exact ⟨⟨rfl, rfl⟩, rfl, rfl, rfl, rfl⟩
  · rw [if_neg hcommitted] at h ⊢
    rw [if_neg hcommitted]
    cases h
    exact ⟨⟨rfl, rfl⟩, rfl, rfl, rfl, rfl⟩

/-- **What asking for the end of a stream can come to**, with what is asked and the streams whose end is told after
    it: its end was told before; it cannot be asked for, or is not known; the position cannot be asked for; there is
    more to read; or the end is reached. -/
inductive Checks (n : Network ν) (o : TransportOptions) (tp : TopicPartition) (t : Transport ν) :
    List Request → Except Failure (Option Item) → List TopicPartition → Prop where
  | known (told : tp ∈ t.ended) : Checks n o tp t [] (.ok none) t.ended
  | unanswered {f : Failure} (new : tp ∉ t.ended) (answer : endAnswer n o tp t.network = .error f) :
    Checks n o tp t [endRequest o tp] (.error f) t.ended
  | unknown (new : tp ∉ t.ended) (answer : endAnswer n o tp t.network = .ok none) :
    Checks n o tp t [endRequest o tp] (.ok none) t.ended
  | lost {e : Int} {f : Failure} (new : tp ∉ t.ended) (answer : endAnswer n o tp t.network = .ok (some e))
    (position : (n.answer (.position tp) (n.after [endRequest o tp] t.network)).1 = .error f)
    (broker : f.isBroker = true) :
    Checks n o tp t [endRequest o tp, .position tp] (.ok (some (.failed tp.topic tp.partition f))) t.ended
  | broken {e : Int} {f : Failure} (new : tp ∉ t.ended) (answer : endAnswer n o tp t.network = .ok (some e))
    (position : (n.answer (.position tp) (n.after [endRequest o tp] t.network)).1 = .error f)
    (broker : f.isBroker = false) :
    Checks n o tp t [endRequest o tp, .position tp] (.error f) t.ended
  | before {e p : Int} (new : tp ∉ t.ended) (answer : endAnswer n o tp t.network = .ok (some e))
    (position : (n.answer (.position tp) (n.after [endRequest o tp] t.network)).1 = .ok p) (more : p < e) :
    Checks n o tp t [endRequest o tp, .position tp] (.ok none) t.ended
  | reached {e p : Int} (new : tp ∉ t.ended) (answer : endAnswer n o tp t.network = .ok (some e))
    (position : (n.answer (.position tp) (n.after [endRequest o tp] t.network)).1 = .ok p) (behind : e ≤ p) :
    Checks n o tp t [endRequest o tp, .position tp] (.ok (some (.ended tp.topic tp.partition p))) (tp :: t.ended)

/-- Only the end and the position are asked for. -/
theorem Checks.questions {tp : TopicPartition} {t : Transport ν} {rs : List Request}
    {result : Except Failure (Option Item)} {told : List TopicPartition} (h : Checks n o tp t rs result told) :
    ∀ r ∈ rs, r.reads = true ∧ r.fetches = false ∧ ∀ q, r.moves q = false := by
  have hend := endRequest_question o tp
  have hposition : (Request.position tp).reads = true ∧ (Request.position tp).fetches = false
      ∧ ∀ q, (Request.position tp).moves q = false := ⟨rfl, rfl, fun _ => rfl⟩
  cases h with
  | known => exact List.forall_mem_nil _
  | unanswered | unknown => exact List.forall_mem_singleton.mpr hend
  | lost | broken | before | reached => exact List.forall_mem_cons.mpr ⟨hend, List.forall_mem_singleton.mpr hposition⟩

/-- A step that asks questions: it fetches nothing and moves no position, and the streams stay open. -/
structure Inquires (n : Network ν) (rs : List Request) (t t' : Transport ν) : Prop where
  asked : Asked n rs t t'
  questions : ∀ r ∈ rs, r.reads = true ∧ r.fetches = false ∧ ∀ q, r.moves q = false
  streams : t'.streams = t.streams
  hasConsumer : t'.hasConsumer = t.hasConsumer

theorem Inquires.refl (t : Transport ν) : Inquires n [] t t := ⟨.refl t, List.forall_mem_nil _, rfl, rfl⟩

theorem Inquires.trans {rs qs : List Request} {t₁ t₂ t₃ : Transport ν} (h : Inquires n rs t₁ t₂)
    (g : Inquires n qs t₂ t₃) : Inquires n (rs ++ qs) t₁ t₃ where
  asked := h.asked.trans g.asked
  questions := List.forall_mem_append.mpr ⟨h.questions, g.questions⟩
  streams := g.streams.trans h.streams
  hasConsumer := g.hasConsumer.trans h.hasConsumer

/-- **The end of one stream** is asked for in one of these ways. -/
theorem endItem_checks (n : Network ν) (o : TransportOptions) (tp : TopicPartition) (t : Transport ν) :
    ∃ rs, Inquires n rs t (t.endItem n o tp).2
      ∧ Checks n o tp t rs (t.endItem n o tp).1 (t.endItem n o tp).2.ended := by
  -- The requests of a check are told by the check itself, so what is left is what was asked and what was kept.
  suffices h : ∃ rs, Asked n rs t (t.endItem n o tp).2
      ∧ Checks n o tp t rs (t.endItem n o tp).1 (t.endItem n o tp).2.ended
      ∧ (t.endItem n o tp).2.streams = t.streams ∧ (t.endItem n o tp).2.hasConsumer = t.hasConsumer by
    obtain ⟨rs, hasked, hchecks, hstreams, hheld⟩ := h
    exact ⟨rs, ⟨hasked, hchecks.questions, hstreams, hheld⟩, hchecks⟩
  unfold endItem
  by_cases htold : tp ∈ t.ended
  · rw [if_pos (by simpa using htold)]
    exact ⟨[], .refl t, .known htold, rfl, rfl⟩
  rw [if_neg (by simpa using htold)]
  cases hend : t.endOf n o tp with
  | mk result t₁ =>
  obtain ⟨hasked, hanswer, hstreams, hended, hheld⟩ := endOf_asked hend
  match result with
  | .error f => exact ⟨_, hasked, hended ▸ .unanswered htold hanswer, hstreams, hheld⟩
  | .ok none => exact ⟨_, hasked, hended ▸ .unknown htold hanswer, hstreams, hheld⟩
  | .ok (some last) =>
    dsimp only
    have hposition : Asked n [.position tp] t₁ (t₁.ask n (.position tp)).2 := ⟨rfl, rfl⟩
    have hat : (n.answer (.position tp) (n.after [endRequest o tp] t.network)).1 = (t₁.ask n (.position tp)).1 := by
      rw [← hasked.network]; rfl
    have hkeeps : (t₁.ask n (.position tp)).2.streams = t.streams ∧ (t₁.ask n (.position tp)).2.ended = t.ended
        ∧ (t₁.ask n (.position tp)).2.hasConsumer = t.hasConsumer := ⟨hstreams, hended, hheld⟩
    generalize t₁.ask n (.position tp) = outcome at hposition hat hkeeps ⊢
    obtain ⟨result, t₂⟩ := outcome
    obtain ⟨hsame, htoldSame, hholds⟩ := hkeeps
    dsimp only at hposition hat hsame htoldSame hholds
    have hboth := hasked.trans hposition
    cases result with
    | error f =>
      refine ⟨_, hboth, ?_, hsame, hholds⟩
      dsimp only
      rw [htoldSame]
      by_cases hbroker : f.isBroker = true
      · rw [if_pos hbroker]
        exact .lost htold hanswer hat hbroker
      · rw [if_neg hbroker]
        exact .broken htold hanswer hat (by simpa using hbroker)
    | ok position =>
      dsimp only
      by_cases hreached : last ≤ position
      · rw [if_pos hreached]
        refine ⟨_, ⟨hboth.requests, hboth.network⟩, ?_, hsame, hholds⟩
        show Checks n o tp t _ _ (tp :: t₂.ended)
        rw [htoldSame]
        exact .reached htold hanswer hat hreached
      · rw [if_neg hreached]
        refine ⟨_, hboth, ?_, hsame, hholds⟩
        rw [htoldSame]
        exact .before htold hanswer hat (by omega)

/-- **The end of one stream** comes up only if it was told. -/
theorem endItem_brings {tp : TopicPartition} {t t' : Transport ν} {item : Option Item}
    (isOpen : tp ∈ t.streams.map (·.1)) (h : t.endItem n o tp = (.ok item, t')) :
    ∃ rs, Brings C o rs t t' item.toList ∧ recordsIn item.toList = [] := by
  obtain ⟨rs, hinquires, hchecks⟩ := endItem_checks n o tp t
  rw [h] at hinquires hchecks
  have hquestions : ∀ r ∈ rs, r.reads = true ∧ ∀ q, r.moves q = false :=
    fun r hr => ⟨(hinquires.questions r hr).1, (hinquires.questions r hr).2.2⟩
  have hnone : recordsIn item.toList = [] := by
    generalize t'.ended = told at hchecks
    cases hchecks with
    | known | unknown | lost | before | reached => rfl
  refine ⟨rs, .of_questions hinquires.asked hquestions hinquires.streams hnone ?_, hnone⟩
  intro topic p offset hmem
  generalize t'.ended = told at hchecks
  cases hchecks with
  | known | unknown | before => cases hmem
  | lost => cases List.mem_singleton.mp hmem
  | reached new answer position behind =>
    cases List.mem_singleton.mp hmem
    exact ⟨isOpen, _, [], [], _, rfl, answer, position, behind⟩

/-- Behind a failure no more ends are asked for. -/
theorem endItems_of_failed {tp : TopicPartition} {t t₁ : Transport ν} {topic : String} {p : Option Int} {f : Failure}
    (h : t.endItem n o tp = (.ok (some (.failed topic p f)), t₁)) (rest : List TopicPartition) :
    t.endItems n o (tp :: rest) = (.ok [.failed topic p f], t₁) := by
  rw [endItems, h]

/-- Behind anything else, the ends of the rest are asked for. -/
theorem endItems_of_fine {tp : TopicPartition} {t t₁ : Transport ν} {item : Option Item}
    (h : t.endItem n o tp = (.ok item, t₁)) (fine : ∀ topic p f, item ≠ some (.failed topic p f))
    (rest : List TopicPartition) :
    t.endItems n o (tp :: rest)
      = ((t₁.endItems n o rest).1.map (item.toList ++ ·), (t₁.endItems n o rest).2) := by
  rw [endItems, h]
  cases hrest : t₁.endItems n o rest with
  | mk result t₂ =>
  cases item with
  | none =>
    simp only [hrest]
    cases result <;> rfl
  | some item =>
    cases item with
    | failed topic p f => exact absurd rfl (fine topic p f)
    | record | ended | alien =>
      simp only [hrest]
      cases result <;> rfl

/-- The ends of some streams, where asking for them did not fail. -/
theorem endItems_ok_cons {tp : TopicPartition} {rest : List TopicPartition} {t t' : Transport ν} {items : List Item}
    (h : t.endItems n o (tp :: rest) = (.ok items, t')) :
    ∃ item t₁, t.endItem n o tp = (.ok item, t₁)
      ∧ ((∃ topic p f, item = some (.failed topic p f) ∧ items = [.failed topic p f] ∧ t' = t₁)
        ∨ (∀ topic p f, item ≠ some (.failed topic p f))
          ∧ ∃ others, t₁.endItems n o rest = (.ok others, t') ∧ items = item.toList ++ others) := by
  cases hone : t.endItem n o tp with
  | mk result t₁ =>
  cases result with
  | error f =>
    rw [endItems, hone] at h
    cases h
  | ok item =>
  refine ⟨item, t₁, rfl, ?_⟩
  by_cases hfailed : ∃ topic p f, item = some (.failed topic p f)
  · obtain ⟨topic, p, f, rfl⟩ := hfailed
    rw [endItems_of_failed hone] at h
    cases h
    exact .inl ⟨topic, p, f, rfl, rfl, rfl⟩
  · have hfine : ∀ topic p f, item ≠ some (.failed topic p f) := fun topic p f heq => hfailed ⟨topic, p, f, heq⟩
    rw [endItems_of_fine hone hfine] at h
    refine .inr ⟨hfine, ?_⟩
    cases hothers : t₁.endItems n o rest with
    | mk result t₂ =>
    rw [hothers] at h
    cases result with
    | error f => cases h
    | ok others =>
      cases h
      exact ⟨others, rfl, rfl⟩

theorem endItems_brings {tps : List TopicPartition} {t t' : Transport ν} {items : List Item}
    (allOpen : ∀ tp ∈ tps, tp ∈ t.streams.map (·.1)) (h : t.endItems n o tps = (.ok items, t')) :
    ∃ rs, Brings C o rs t t' items ∧ recordsIn items = [] := by
  induction tps generalizing t items with
  | nil =>
    cases h
    exact ⟨[], .refl _, rfl⟩
  | cons tp rest ih =>
    obtain ⟨item, t₁, hone, hrest⟩ := endItems_ok_cons h
    obtain ⟨rs, hbrings, hnone⟩ := endItem_brings (C := C) (allOpen tp List.mem_cons_self) hone
    rcases hrest with ⟨topic, p, f, rfl, rfl, rfl⟩ | ⟨-, others, hothers, rfl⟩
    · exact ⟨rs, hbrings, rfl⟩
    · obtain ⟨qs, hmore, hnil⟩ := ih
        (fun q hq => hbrings.streams ▸ allOpen q (List.mem_cons_of_mem _ hq)) hothers
      exact ⟨rs ++ qs, hbrings.trans hmore, by rw [recordsIn_append, hnone, hnil]; rfl⟩

/-- Of the ends that are told after a check only that of its stream may be new. -/
theorem Checks.mem_told {tp q : TopicPartition} {t : Transport ν} {rs : List Request}
    {result : Except Failure (Option Item)} {told : List TopicPartition} (h : Checks n o tp t rs result told)
    (hq : q ∈ told) : q ∈ t.ended ∨ q = tp := by
  cases h with
  | known | unanswered | unknown | lost | broken | before => exact .inl hq
  | reached => exact (List.mem_cons.mp hq).symm

/-- **The ends of some streams** are asked for by questions, whatever comes of it. -/
theorem endItems_inquires (n : Network ν) (o : TransportOptions) (tps : List TopicPartition) (t : Transport ν) :
    ∃ rs, Inquires n rs t (t.endItems n o tps).2
      ∧ ∀ q ∈ (t.endItems n o tps).2.ended, q ∈ t.ended ∨ q ∈ tps := by
  induction tps generalizing t with
  | nil => exact ⟨[], .refl t, fun q hq => .inl hq⟩
  | cons tp rest ih =>
    obtain ⟨rs, hone, hchecks⟩ := endItem_checks n o tp t
    cases hitem : t.endItem n o tp with
    | mk result t₁ =>
    rw [hitem] at hone hchecks
    dsimp only at hone hchecks
    have hfirst : ∀ q ∈ t₁.ended, q ∈ t.ended ∨ q ∈ tp :: rest := by
      intro q hq
      rcases hchecks.mem_told hq with hold | rfl
      · exact .inl hold
      · exact .inr List.mem_cons_self
    cases result with
    | error f =>
      rw [endItems, hitem]
      exact ⟨rs, hone, hfirst⟩
    | ok item =>
    by_cases hfailed : ∃ topic p f, item = some (.failed topic p f)
    · obtain ⟨topic, p, f, rfl⟩ := hfailed
      rw [endItems_of_failed hitem]
      exact ⟨rs, hone, hfirst⟩
    · rw [endItems_of_fine hitem fun topic p f heq => hfailed ⟨topic, p, f, heq⟩]
      obtain ⟨qs, hrest, hmore⟩ := ih t₁
      refine ⟨rs ++ qs, hone.trans hrest, fun q hq => ?_⟩
      rcases hmore q hq with hold | hmem
      · exact hfirst q hold
      · exact .inr (List.mem_cons_of_mem _ hmem)

/-! ## Fetching -/

theorem recordsIn_map_record (records : List Record) : recordsIn (records.map .record) = records := by
  rw [recordsIn, List.filterMap_map]; exact List.filterMap_some

/-- What is fetched for a partition is of that partition, which is one of those asked for. -/
theorem place_of_fetched (C : LogConsumer n) {tps : List TopicPartition} {ms : Int} {s : ν}
    {data : List (TopicPartition × List Record)} (h : (n.answer (.getMany tps ms) s).1 = .ok data) :
    ∀ d ∈ data, ∀ r ∈ d.2, r.place = d.1 ∧ d.1 ∈ tps := by
  intro d hd r hr
  have hmem : r ∈ (data.filter (·.1 = d.1)).flatMap (·.2) :=
    List.mem_flatMap.mpr ⟨d, List.mem_filter.mpr ⟨hd, decide_eq_true rfl⟩, hr⟩
  rw [C.fetches s tps ms data h d.1] at hmem
  refine ⟨C.own _ d.1 r (List.mem_filter.mp hmem).1, ?_⟩
  by_contra hnot
  rw [C.keeps (.getMany tps ms) s d.1 (by simpa [Request.moves] using hnot), filter_between_self] at hmem
  exact absurd hmem List.not_mem_nil

/-- The records of one partition among those of all. -/
theorem filter_place_eq {data : List (TopicPartition × List Record)}
    (own : ∀ d ∈ data, ∀ r ∈ d.2, r.place = d.1) (tp : TopicPartition) :
    (data.flatMap (·.2)).filter (·.place = tp) = (data.filter (·.1 = tp)).flatMap (·.2) := by
  induction data with
  | nil => rfl
  | cons d rest ih =>
    have hrest := ih fun x hx => own x (List.mem_cons_of_mem _ hx)
    rw [List.flatMap_cons, List.filter_append, hrest, List.filter_cons]
    by_cases hd : d.1 = tp
    · rw [if_pos (decide_eq_true hd), List.flatMap_cons]
      congr 1
      exact List.filter_eq_self.mpr fun r hr => decide_eq_true ((own d List.mem_cons_self r hr).trans hd)
    · rw [if_neg (by simpa using hd)]
      have hnone : d.2.filter (·.place = tp) = [] := by
        refine List.filter_eq_nil_iff.mpr fun r hr heq => hd ?_
        rw [← own d List.mem_cons_self r hr]; exact of_decide_eq_true heq
      rw [hnone, List.nil_append]

/-- **A fetch** brings what lies between the positions before it and those after it. -/
theorem take_brings {ms : Int} {t t' : Transport ν} {data : List (TopicPartition × List Record)}
    (h : t.ask n (.getMany (t.streams.map (·.1)) ms) = (.ok data, t')) :
    Brings C o [.getMany (t.streams.map (·.1)) ms] t (t'.take data).2 (data.flatMap fun d => d.2.map .record) := by
  obtain ⟨hasked, hok, hstreams⟩ := ask_asked h
  have hplace := place_of_fetched C hok
  have hrecords : recordsIn (data.flatMap fun d => d.2.map .record) = data.flatMap (·.2) := by
    rw [recordsIn, List.filterMap_flatMap]
    congr 1
    funext d
    exact recordsIn_map_record d.2
  refine ⟨⟨hasked.requests, hasked.network⟩, List.forall_mem_singleton.mpr rfl, hstreams, ?_,
    fun tp => ?_, fun tp => ?_, fun topic p offset hmem => ?_⟩
  · intro r hr
    rw [hrecords] at hr
    obtain ⟨d, hd, hmem⟩ := List.mem_flatMap.mp hr
    obtain ⟨heq, hopen⟩ := hplace d hd r hmem
    rw [heq]; exact hopen
  · rw [hrecords, filter_place_eq (fun d hd r hr => (hplace d hd r hr).1)]
    exact (C.fetches _ _ ms data hok tp).trans (by rw [take, hasked.network]; rfl)
  · have hstays := C.stays _ _ ms data hok tp
    rw [take, hasked.network]; exact hstays
  · obtain ⟨d, -, hmem⟩ := List.mem_flatMap.mp hmem
    obtain ⟨r, -, heq⟩ := List.mem_map.mp hmem
    cases heq

/-! ## Polling -/

/-- **What a poll can come to**: no stream is open; there is no consumer; the wait is none; the fetch fails; or records
    were fetched, and the ends are asked for. -/
inductive Polls (n : Network ν) (o : TransportOptions) (seconds : Double) (t : Transport ν) :
    Except Failure (List Item) → Transport ν → Prop where
  | closed (none : t.streams = []) : Polls n o seconds t (.ok []) t
  | unheld (some : t.streams ≠ []) (unheld : t.hasConsumer = false) :
    Polls n o seconds t (.error (noHandle "getmany")) t
  | untimed {f : Failure} (some : t.streams ≠ []) (wait : milliseconds seconds = .error f) :
    Polls n o seconds t (.error f) t
  | unfetched {ms : Int} {f : Failure} {t₁ : Transport ν} (topic : String) (some : t.streams ≠ [])
    (wait : milliseconds seconds = .ok ms)
    (asked : t.ask n (.getMany (t.streams.map (·.1)) ms) = (.error f, t₁)) :
    Polls n o seconds t (if f.isBroker then .ok [.failed topic (partitionNamed? f) f] else .error f) t₁
  | fetched {ms : Int} {data : List (TopicPartition × List Record)} {t₁ : Transport ν} (some : t.streams ≠ [])
    (wait : milliseconds seconds = .ok ms)
    (asked : t.ask n (.getMany (t.streams.map (·.1)) ms) = (.ok data, t₁)) :
    Polls n o seconds t (t₁.collect n o (t.streams.map (·.1)) data).1
      (t₁.collect n o (t.streams.map (·.1)) data).2

/-- **Every poll** is one of these. -/
theorem poll_polls (n : Network ν) (o : TransportOptions) (seconds : Double) (t : Transport ν) :
    Polls n o seconds t (t.poll n o seconds).1 (t.poll n o seconds).2 := by
  unfold poll
  cases hstreams : t.streams with
  | nil => exact .closed hstreams
  | cons s rest =>
    have hsome : t.streams ≠ [] := by rw [hstreams]; exact List.cons_ne_nil s rest
    dsimp only
    unfold pollFrom
    dsimp only
    by_cases hheld : t.hasConsumer = true
    · rw [if_neg (by simp [hheld])]
      cases hwait : milliseconds seconds with
      | error f => exact .untimed hsome hwait
      | ok ms =>
        dsimp only
        cases hask : t.ask n (.getMany (t.streams.map (·.1)) ms) with
        | mk result t₁ =>
        cases result with
        | error f => exact .unfetched _ hsome hwait hask
        | ok data => exact .fetched hsome hwait hask
    · rw [if_pos (by simp [hheld])]
      exact .unheld hsome (by simpa using hheld)

/-- **A poll keeps the streams open.** Where it asks for anything, it fetches once, from all open streams; only their
    ends may be told after it. -/
theorem Polls.inquires {seconds : Double} {t t' : Transport ν} {result : Except Failure (List Item)}
    (h : Polls n o seconds t result t') :
    t'.streams = t.streams ∧ t'.hasConsumer = t.hasConsumer
      ∧ (∀ q ∈ t'.ended, q ∈ t.ended ∨ q ∈ t.streams.map (·.1))
      ∧ (t' = t ∧ (t.streams = [] ∨ t.hasConsumer = false ∨ ∃ f, milliseconds seconds = .error f)
        ∨ ∃ ms qs, milliseconds seconds = .ok ms ∧ Asked n (.getMany (t.streams.map (·.1)) ms :: qs) t t'
          ∧ ∀ r ∈ qs, r.reads = true ∧ r.fetches = false ∧ ∀ q, r.moves q = false) := by
  cases h with
  | closed none => exact ⟨rfl, rfl, fun _ hq => .inl hq, .inl ⟨rfl, .inl none⟩⟩
  | unheld _ unheld => exact ⟨rfl, rfl, fun _ hq => .inl hq, .inl ⟨rfl, .inr (.inl unheld)⟩⟩
  | untimed _ wait => exact ⟨rfl, rfl, fun _ hq => .inl hq, .inl ⟨rfl, .inr (.inr ⟨_, wait⟩)⟩⟩
  | @unfetched ms f _ topic some wait asked =>
    obtain ⟨hstreams, hended, hheld⟩ := ask_keeps asked
    refine ⟨hstreams, hheld, fun q hq => .inl (hended ▸ hq), .inr ⟨ms, [], wait, (ask_asked asked).1, ?_⟩⟩
    exact List.forall_mem_nil _
  | @fetched ms data t₁ some wait asked =>
    obtain ⟨hstreams, hended, hheld⟩ := ask_keeps asked
    obtain ⟨qs, hinquires, htold⟩ := endItems_inquires n o (t.streams.map (·.1)) (t₁.take data).2
    have hcollect : (t₁.collect n o (t.streams.map (·.1)) data).2
        = ((t₁.take data).2.endItems n o (t.streams.map (·.1))).2 := by
      unfold collect
      dsimp only
      generalize (t₁.take data).2.endItems n o (t.streams.map (·.1)) = outcome
      obtain ⟨result, t₂⟩ := outcome
      cases result with
      | error f => rfl
      | ok ends => rfl
    rw [hcollect]
    refine ⟨hinquires.streams.trans hstreams, hinquires.hasConsumer.trans hheld, ?_, .inr ⟨ms, qs, wait, ?_, ?_⟩⟩
    · intro q hq
      rcases htold q hq with hold | hmem
      · -- A fetch only takes streams out of those whose end was told.
        refine .inl (hended ▸ ?_)
        exact (List.mem_filter.mp hold).1
      · exact .inr hmem
    · have htake : Asked n [] t₁ (t₁.take data).2 := ⟨rfl, rfl⟩
      exact ((ask_asked asked).1.trans htake).trans hinquires.asked
    · exact hinquires.questions

/-- **A poll** brings records and then ends. If the fetch fails, it brings that failure alone. -/
theorem poll_brings {seconds : Double} {t t' : Transport ν} {items : List Item}
    (h : t.poll n o seconds = (.ok items, t')) :
    (∃ topic p f, items = [.failed topic p f])
      ∨ ∃ rs, Brings C o rs t t' items
        ∧ ∃ (records : List Record) (ends : List Item),
          items = records.map .record ++ ends ∧ recordsIn ends = [] := by
  have hpolls := poll_polls n o seconds t
  rw [h] at hpolls
  dsimp only at hpolls
  generalize hresult : Except.ok items = result at hpolls
  cases hpolls with
  | closed =>
    cases hresult
    exact .inr ⟨[], .refl t, [], [], rfl, rfl⟩
  | unheld | untimed => cases hresult
  | @unfetched ms f _ topic =>
    split at hresult
    · cases hresult
      exact .inl ⟨_, _, f, rfl⟩
    · cases hresult
  | @fetched ms data t₁ some wait asked =>
    have htake := take_brings (C := C) (o := o) asked
    unfold collect at hresult htake ⊢
    dsimp only at hresult ⊢
    cases hends : (t₁.take data).2.endItems n o (t.streams.map (·.1)) with
    | mk result t₂ =>
    rw [hends] at hresult
    cases result with
    | error f => cases hresult
    | ok ends =>
    obtain ⟨qs, hmore, hnone⟩ := endItems_brings (C := C) (fun tp htp => htake.streams ▸ htp) hends
    have hflat : (data.flatMap fun d => d.2.map Item.record) = (data.flatMap (·.2)).map .record :=
      List.map_flatMap.symm
    have hboth := htake.trans hmore
    cases hresult
    refine .inr ⟨_, hboth, data.flatMap (·.2), ends, ?_, hnone⟩
    rw [← hflat]; rfl

end TopicReader.Transport
