import TopicReader.Proofs.Transport.Session

/-!
# `Proofs.Transport.Refusals` — what a transport makes of a request that is refused

A call of a transport asks the network for several things, one after the other. A call before the first poll breaks
off at the first request that is refused, and fails with what it makes of that refusal. A poll breaks off as well, but
it does not fail: it hands the failure on as its last item, behind what it has fetched. Here this is said once for each
function of the transport, and then for each call of a client.

## Contents
- **Refusals.** `Network.refusals`: the requests that are refused among some.
- **Kinds.** `Request.purpose`: which call asks for what; `Request.category?`: what a refusal is reported as.
- **Handles.** `Held`: there is a consumer where streams are open.
- **Before the first poll.** `Tries`, and `start_tries`, `fetch_tries`, `openStream_tries`.
- **Polling.** `Tells`, and `poll_tells`.
- **Any call.** `Serves`, `respond_serves`.
-/

namespace TopicReader

variable {ν α β : Type}

/-! ## Refusals -/

namespace Network

/-- What a request is refused with, if it is. -/
def refusal? (n : Network ν) (r : Request) (s : ν) : Option Failure :=
  match (n.answer r s).1 with
  | .error f => some f
  | .ok _ => none

/-- **The requests that are refused** among some, each with its failure. -/
def refusals (n : Network ν) : List Request → ν → List (Request × Failure)
  | [], _ => []
  | r :: rest, s => ((n.refusal? r s).map (r, ·)).toList ++ n.refusals rest (n.answer r s).2

variable {n : Network ν}

theorem refusals_append (rs qs : List Request) (s : ν) :
    n.refusals (rs ++ qs) s = n.refusals rs s ++ n.refusals qs (n.after rs s) := by
  induction rs generalizing s with
  | nil => rfl
  | cons r rest ih => rw [List.cons_append, refusals, refusals, ih, List.append_assoc]; rfl

/-- A request that is answered is not refused. -/
theorem refusals_of_ok {r : Request} {s : ν} {a : r.Answer} (h : (n.answer r s).1 = .ok a) :
    n.refusals [r] s = [] := by
  simp only [refusals, refusal?, h]
  rfl

theorem refusals_of_error {r : Request} {s : ν} {f : Failure} (h : (n.answer r s).1 = .error f) :
    n.refusals [r] s = [(r, f)] := by
  simp only [refusals, refusal?, h]
  rfl

/-- What is refused was asked. -/
theorem mem_of_mem_refusals {rs : List Request} {s : ν} {y : Request × Failure} (h : y ∈ n.refusals rs s) :
    y.1 ∈ rs := by
  induction rs generalizing s with
  | nil => cases h
  | cons r rest ih =>
    rcases List.mem_append.mp h with h | h
    · obtain ⟨f, -, rfl⟩ := Option.map_eq_some_iff.mp (Option.mem_toList.mp h)
      exact List.mem_cons_self
    · exact List.mem_cons_of_mem _ (ih h)

end Network

/-! ## Kinds -/

namespace Request

/-- What requests are asked for: by which call of a run. -/
inductive Purpose where
  | starting
  | describing
  | placing
  | reading
  | releasing
deriving DecidableEq, Repr

/-- What a request is asked for. -/
def purpose : Request → Purpose
  | makeConsumer _ | makeAdmin _ | startConsumer | startAdmin => .starting
  | describe _ => .describing
  | assign _ | seekToBeginning _ | seekToEnd _ | seekToCommitted _ | seek .. | beginningOffset _
  | endOffset _ => .placing
  | getMany .. | position _ | highWater _ | lastStable _ => .reading
  | pause _ | stopConsumer | closeAdmin => .releasing

/-- The category under which a refusal is reported. It is foreseen wherever the cluster has to answer: making the
    handles, looking up an end that is known, and what a release asks for are no such requests. -/
def category? : Request → Option Category
  | startConsumer | startAdmin => some .stream
  | describe _ => some .metadata
  | assign _ | seekToBeginning _ | seekToEnd _ | seekToCommitted _ | seek .. | beginningOffset _
  | endOffset _ => some .stream
  | getMany .. | position _ => some .stream
  | makeConsumer _ | makeAdmin _ | highWater _ | lastStable _ | pause _ | stopConsumer | closeAdmin => none

theorem reads_iff (r : Request) : r.reads = true ↔ r.purpose = .reading := by
  cases r <;> simp [reads, purpose]

/-- Only a description is reported as a matter of metadata. -/
theorem category?_of_purpose {r : Request} {category : Category} (h : r.category? = some category) :
    category = if r.purpose = .describing then .metadata else .stream := by
  cases r <;> simp_all [category?, purpose]

/-- Nothing that a release asks for is reported. -/
theorem category?_of_releasing {r : Request} (h : r.purpose = .releasing) : r.category? = none := by
  cases r <;> simp_all [category?, purpose]

end Request

/-- Is it a part of a stream: a record, or the end of a partition? -/
def Item.isSound : Item → Bool
  | record _ | ended .. => true
  | failed .. | alien _ => false

namespace Transport

variable {n : Network ν} {o : TransportOptions}

/-! ## Handles -/

/-- **There is a consumer** where streams are open. -/
def Held (t : Transport ν) : Prop := t.streams ≠ [] → t.hasConsumer = true

theorem Held.of_keeps {t t' : Transport ν} (h : Held t) (streams : t'.streams = t.streams)
    (consumer : t'.hasConsumer = t.hasConsumer) : Held t' := by
  unfold Held
  rw [streams, consumer]
  exact h

theorem Held.of_consumer {t : Transport ν} (h : t.hasConsumer = true) : Held t := fun _ => h

/-! ## Before the first poll -/

/-- **A step that breaks off at the first refusal.** If it succeeds, every request was answered; if a request is
    refused, the step fails with what it makes of that. -/
structure Tries (n : Network ν) (kind : Request.Purpose) (voice : Request → Failure → Failure) (rs : List Request)
    (t t' : Transport ν) (result : Except Failure α) : Prop where
  asked : Asked n rs t t'
  kinds : ∀ r ∈ rs, r.purpose = kind
  answered : ∀ a, result = .ok a → n.refusals rs t.network = []
  refused : ∀ y ∈ n.refusals rs t.network, result = .error (voice y.1 y.2)
  held : Held t → Held t'

namespace Tries

variable {kind : Request.Purpose} {voice : Request → Failure → Failure} {t t₁ t₂ : Transport ν}

/-- A step that asks nothing. -/
theorem of_none (kind : Request.Purpose) (voice : Request → Failure → Failure) (t : Transport ν)
    (result : Except Failure α) : Tries n kind voice [] t t result :=
  ⟨.refl t, List.forall_mem_nil _, fun _ _ => rfl, fun _ h => (nomatch h), id⟩

/-- A step that asks one thing. -/
theorem of_ask {r : Request} {answer : Except Failure r.Answer} {result : Except Failure α}
    (h : t.ask n r = (answer, t₁)) (fine : ∀ a, result = .ok a → ∃ b, answer = .ok b)
    (voiced : ∀ f, answer = .error f → result = .error (voice r f)) :
    Tries n r.purpose voice [r] t t₁ result := by
  obtain ⟨hasked, hanswer, hstreams⟩ := ask_asked h
  obtain ⟨-, -, hconsumer⟩ := ask_keeps h
  refine ⟨hasked, List.forall_mem_singleton.mpr rfl, fun a ha => ?_, fun y hy => ?_,
    fun hheld => hheld.of_keeps hstreams hconsumer⟩
  · obtain ⟨b, rfl⟩ := fine a ha
    exact Network.refusals_of_ok hanswer
  · cases answer with
    | ok b =>
      rw [Network.refusals_of_ok hanswer] at hy
      cases hy
    | error f =>
      rw [Network.refusals_of_error hanswer, List.mem_singleton] at hy
      rw [hy]
      exact voiced f rfl

/-- A step that hands on what becomes of one request. -/
theorem of_raw {r : Request} {answer : Except Failure r.Answer} (h : t.ask n r = (answer, t₁))
    (raw : ∀ f, voice r f = f) : Tries n r.purpose voice [r] t t₁ answer :=
  .of_ask h (fun a ha => ⟨a, ha⟩) fun f hf => by rw [raw]; exact hf

/-- Steps that follow each other, since the first one succeeds. -/
theorem trans {rs qs : List Request} {a : α} {result : Except Failure β}
    (h : Tries n kind voice rs t t₁ (.ok a : Except Failure α)) (g : Tries n kind voice qs t₁ t₂ result) :
    Tries n kind voice (rs ++ qs) t t₂ result := by
  -- Everything that the first step asked was answered, so what is refused is refused to the second one.
  have hsplit : n.refusals (rs ++ qs) t.network = n.refusals qs t₁.network := by
    rw [Network.refusals_append, h.answered a rfl, ← h.asked.network, List.nil_append]
  refine ⟨h.asked.trans g.asked, List.forall_mem_append.mpr ⟨h.kinds, g.kinds⟩, ?_, ?_, g.held ∘ h.held⟩
  · rw [hsplit]; exact g.answered
  · rw [hsplit]; exact g.refused

/-- A failure is handed on. -/
theorem error {rs : List Request} {f : Failure} (h : Tries n kind voice rs t t₁ (.error f : Except Failure α)) :
    Tries n kind voice rs t t₁ (.error f : Except Failure β) where
  asked := h.asked
  kinds := h.kinds
  answered := fun _ ha => nomatch ha
  refused := fun y hy => congrArg Except.error (Except.error.inj (h.refused y hy))
  held := h.held

/-- What is not asked of the network may change, as long as there is a consumer where streams are open. -/
theorem frame {rs : List Request} {result : Except Failure α} (h : Tries n kind voice rs t t₁ result)
    (requests : t₂.requests = t₁.requests) (network : t₂.network = t₁.network) (held : Held t → Held t₂) :
    Tries n kind voice rs t t₂ result :=
  ⟨⟨requests.trans h.asked.requests, network.trans h.asked.network⟩, h.kinds, h.answered, h.refused, held⟩

end Tries

/-- What a start makes of a refusal: whatever it is, it is told raw where a handle could not be made. -/
def startVoice (c : Connection) : Request → Failure → Failure
  | .startConsumer, f => connectFailure c f
  | .startAdmin, f => connectFailure c f
  | _, f => f

theorem makeConsumer_tries (n : Network ν) (o : TransportOptions) (t : Transport ν) :
    ∃ rs, Tries n .starting (startVoice o.connection) rs t (t.makeConsumer n o).2 (t.makeConsumer n o).1 := by
  unfold makeConsumer
  cases Connection.consumerSettings o.loader o.connection o.properties with
  | error f => exact ⟨[], .of_none _ _ t _⟩
  | ok settings =>
    dsimp only
    cases hask : t.ask n (.makeConsumer settings) with
    | mk result t₁ =>
    have hone : Tries n .starting (startVoice o.connection) [.makeConsumer settings] t t₁ result :=
      .of_raw hask fun _ => rfl
    cases result with
    | error f => exact ⟨_, hone⟩
    | ok u => exact ⟨_, hone.frame rfl rfl fun _ => .of_consumer rfl⟩

theorem makeAdmin_tries (n : Network ν) (o : TransportOptions) (t : Transport ν) :
    ∃ rs, Tries n .starting (startVoice o.connection) rs t (t.makeAdmin n o).2 (t.makeAdmin n o).1 := by
  unfold makeAdmin
  cases Connection.adminSettings o.loader o.connection o.properties with
  | error f => exact ⟨[], .of_none _ _ t _⟩
  | ok settings =>
    dsimp only
    cases hask : t.ask n (.makeAdmin settings) with
    | mk result t₁ =>
    have hone : Tries n .starting (startVoice o.connection) [.makeAdmin settings] t t₁ result :=
      .of_raw hask fun _ => rfl
    cases result with
    | error f => exact ⟨_, hone⟩
    | ok u => exact ⟨_, hone.frame rfl rfl hone.held⟩

theorem startHandles_tries (n : Network ν) (c : Connection) (t : Transport ν) :
    ∃ rs, Tries n .starting (startVoice c) rs t (t.startHandles n c).2 (t.startHandles n c).1 := by
  unfold startHandles
  cases hask : t.ask n .startConsumer with
  | mk result t₁ =>
  cases result with
  | error f => exact ⟨_, .of_ask hask (fun a ha => by cases ha) fun g hg => by cases hg; rfl⟩
  | ok u =>
    have hone : Tries n .starting (startVoice c) [.startConsumer] t t₁ (.ok u) :=
      .of_ask hask (fun a ha => ⟨a, ha⟩) fun g hg => by cases hg
    dsimp only
    cases hagain : t₁.ask n .startAdmin with
    | mk result t₂ =>
    cases result with
    | error f => exact ⟨_, hone.trans (.of_ask hagain (fun a ha => by cases ha) fun g hg => by cases hg; rfl)⟩
    | ok u => exact ⟨_, hone.trans (.of_ask hagain (fun a ha => ⟨a, ha⟩) fun g hg => by cases hg)⟩

/-- **A start** breaks off at the first refusal. -/
theorem start_tries (n : Network ν) (o : TransportOptions) (t : Transport ν) :
    ∃ rs, Tries n .starting (startVoice o.connection) rs t (t.start n o).2 (t.start n o).1 := by
  obtain ⟨rs, hconsumer⟩ := makeConsumer_tries n o t
  unfold start
  generalize t.makeConsumer n o = outcome at hconsumer ⊢
  obtain ⟨result, t₁⟩ := outcome
  cases result with
  | error f => exact ⟨rs, hconsumer⟩
  | ok u =>
    obtain ⟨qs, hadmin⟩ := makeAdmin_tries n o t₁
    have hboth := hconsumer.trans hadmin
    dsimp only at hboth ⊢
    generalize t₁.makeAdmin n o = outcome at hboth ⊢
    obtain ⟨result, t₂⟩ := outcome
    cases result with
    | error f => exact ⟨_, hboth⟩
    | ok u =>
      obtain ⟨ps, hstarted⟩ := startHandles_tries n o.connection t₂
      exact ⟨_, hboth.trans hstarted⟩

/-- **A query for metadata** asks one thing at most. -/
theorem fetch_tries (n : Network ν) (topic : String) (seconds : Double) (t : Transport ν) :
    ∃ rs, Tries n .describing (fun _ f => fetchFailure topic seconds f) rs t (t.fetch n topic seconds).2
      (t.fetch n topic seconds).1 := by
  unfold fetch
  split
  · exact ⟨[], .of_none _ _ t _⟩
  split
  · exact ⟨[], .of_none _ _ t _⟩
  cases hask : t.ask n (.describe topic) with
  | mk result t₁ =>
  match result with
  | .error f => exact ⟨_, .of_ask hask (fun a ha => by cases ha) fun g hg => by cases hg; rfl⟩
  | .ok none => exact ⟨_, .of_ask hask (fun a ha => by cases ha) fun g hg => by cases hg⟩
  | .ok (some answer) => exact ⟨_, .of_ask hask (fun a ha => ⟨_, rfl⟩) fun g hg => by cases hg⟩

/-- What placing a stream makes of a refusal: nothing. -/
def rawVoice : Request → Failure → Failure := fun _ f => f

theorem place_tries (n : Network ν) (tp : TopicPartition) (start : StartPoint) (t : Transport ν) :
    ∃ rs, Tries n .placing rawVoice rs t (t.place n tp start).2 (t.place n tp start).1 := by
  match start with
  | .alien v => exact ⟨[], .of_none _ _ t _⟩
  | .offset .earliest => exact ⟨_, .of_raw (r := .seekToBeginning tp) rfl fun _ => rfl⟩
  | .offset .latest => exact ⟨_, .of_raw (r := .seekToEnd tp) rfl fun _ => rfl⟩
  | .offset .stored => exact ⟨_, .of_raw (r := .seekToCommitted tp) rfl fun _ => rfl⟩
  | .offset (.absolute k) => exact ⟨_, .of_raw (r := .seek tp k) rfl fun _ => rfl⟩
  | .offset (.tail count) =>
    -- A tail asks for both ends of the partition before it seeks.
    show ∃ rs, Tries n .placing rawVoice rs t (t.seekTail n tp count).2 (t.seekTail n tp count).1
    unfold seekTail
    cases hfirst : t.ask n (.beginningOffset tp) with
    | mk result t₁ =>
    have hone : Tries n .placing rawVoice [.beginningOffset tp] t t₁ result := .of_raw hfirst fun _ => rfl
    cases result with
    | error f => exact ⟨_, hone.error⟩
    | ok first =>
    dsimp only
    cases hlast : t₁.ask n (.endOffset tp) with
    | mk result t₂ =>
    have htwo := hone.trans (.of_raw hlast fun _ => rfl)
    cases result with
    | error f => exact ⟨_, htwo.error⟩
    | ok last => exact ⟨_, htwo.trans (.of_raw (r := .seek tp (max first (last - count))) rfl fun _ => rfl)⟩

theorem placeEach_tries (n : Network ν) (streams : List (TopicPartition × StartPoint)) (t : Transport ν) :
    ∃ rs, Tries n .placing rawVoice rs t (t.placeEach n streams).2 (t.placeEach n streams).1 := by
  induction streams generalizing t with
  | nil => exact ⟨[], .of_none _ _ t _⟩
  | cons s others ih =>
    obtain ⟨tp, start⟩ := s
    obtain ⟨rs, hone⟩ := place_tries n tp start t
    rw [placeEach]
    generalize t.place n tp start = outcome at hone ⊢
    obtain ⟨result, t₁⟩ := outcome
    cases result with
    | error f => exact ⟨rs, hone⟩
    | ok u =>
      obtain ⟨qs, hrest⟩ := ih t₁
      exact ⟨rs ++ qs, hone.trans hrest⟩

/-- **An open** breaks off at the first refusal, be it the assignment or what places a stream that was open before. -/
theorem openStream_tries (n : Network ν) (topic : String) (p : Int) (start : StartPoint) (t : Transport ν) :
    ∃ rs, Tries n .placing rawVoice rs t (t.openStream n topic p start).2 (t.openStream n topic p start).1 := by
  unfold openStream
  dsimp only
  by_cases hconsumer : t.hasConsumer = true
  · rw [if_neg (by simp [hconsumer])]
    cases hask : t.ask n (.assign ((withStart t.streams ⟨topic, p⟩ start).map (·.1))) with
    | mk result t₁ =>
    have hone : Tries n .placing rawVoice [.assign ((withStart t.streams ⟨topic, p⟩ start).map (·.1))] t t₁ result :=
      .of_raw hask fun _ => rfl
    obtain ⟨-, -, hheld⟩ := ask_keeps hask
    cases result with
    | error f => exact ⟨_, hone⟩
    | ok u =>
    obtain ⟨rs, hplaced⟩ := placeEach_tries n (withStart t.streams ⟨topic, p⟩ start) t₁
    have hleaves := (placeEach_leaves n (withStart t.streams ⟨topic, p⟩ start) t₁).hasConsumer
    have hboth := hone.trans hplaced
    dsimp only
    generalize t₁.placeEach n (withStart t.streams ⟨topic, p⟩ start) = outcome at hboth hleaves ⊢
    obtain ⟨result, t₂⟩ := outcome
    cases result with
    | error f => exact ⟨_, hboth⟩
    | ok u => exact ⟨_, hboth.frame rfl rfl fun _ => .of_consumer ((hleaves.trans hheld).trans hconsumer)⟩
  · rw [if_pos (by simpa using hconsumer)]
    exact ⟨[], .of_none _ _ t _⟩

/-! ## Polling -/

/-- **What a poll tells of its requests**: records and ends, where none was refused; where one was that the cluster
    has to answer, what came before it and then the failure; any other failure is its own. -/
inductive Tells (n : Network ν) (rs : List Request) (s : ν) : Except Failure (List Item) → Prop where
  | everything {items : List Item} (sound : ∀ i ∈ items, i.isSound = true) (none : n.refusals rs s = []) :
    Tells n rs s (.ok items)
  | handedOn {items : List Item} {topic : String} {p : Option Int} {r : Request} {f : Failure}
    (sound : ∀ i ∈ items, i.isSound = true) (one : n.refusals rs s = [(r, f)])
    (foreseen : r.category? = some .stream) (broker : f.isBroker = true) :
    Tells n rs s (.ok (items ++ [.failed topic p f]))
  | failed {r : Request} {f : Failure} (one : n.refusals rs s = [(r, f)])
    (raw : r.category? = none ∨ f.isBroker = false) : Tells n rs s (.error f)

/-- What is told behind items for which nothing was refused. -/
theorem Tells.behind {rs qs : List Request} {s : ν} {items : List Item} {result : Except Failure (List Item)}
    (none : n.refusals rs s = []) (first : ∀ i ∈ items, i.isSound = true) (h : Tells n qs (n.after rs s) result) :
    Tells n (rs ++ qs) s (result.map (items ++ ·)) := by
  have hsplit : n.refusals (rs ++ qs) s = n.refusals qs (n.after rs s) := by
    rw [Network.refusals_append, none, List.nil_append]
  cases h with
  | everything sound hnone =>
    exact .everything (List.forall_mem_append.mpr ⟨first, sound⟩) (hsplit.trans hnone)
  | handedOn sound one foreseen broker =>
    show Tells n (rs ++ qs) s (.ok (items ++ (_ ++ _)))
    rw [← List.append_assoc]
    exact .handedOn (List.forall_mem_append.mpr ⟨first, sound⟩) (hsplit.trans one) foreseen broker
  | failed one raw => exact .failed (hsplit.trans one) raw

/-- The end of a partition is asked for by one request, which is refused or not. -/
theorem refusals_endRequest (n : Network ν) (o : TransportOptions) (tp : TopicPartition) (s : ν) :
    (∀ e, endAnswer n o tp s = .ok e → n.refusals [endRequest o tp] s = [])
      ∧ ∀ f, endAnswer n o tp s = .error f → n.refusals [endRequest o tp] s = [(endRequest o tp, f)]
        ∧ (endRequest o tp).category? = none := by
  unfold endAnswer endRequest
  split
  · exact ⟨fun e h => Network.refusals_of_ok h, fun f h => ⟨Network.refusals_of_error h, rfl⟩⟩
  · exact ⟨fun e h => Network.refusals_of_ok h, fun f h => ⟨Network.refusals_of_error h, rfl⟩⟩

/-- The position is asked for behind the end. -/
theorem refusals_position {tp : TopicPartition} {s : ν} {e : Option Int} (h : endAnswer n o tp s = .ok e) :
    n.refusals [endRequest o tp, .position tp] s = n.refusals [.position tp] (n.after [endRequest o tp] s) := by
  rw [← List.singleton_append, Network.refusals_append, (refusals_endRequest n o tp s).1 e h, List.nil_append]

/-- **Asking for the end of a stream** tells of its requests. -/
theorem Checks.tells {tp : TopicPartition} {t : Transport ν} {rs : List Request}
    {result : Except Failure (Option Item)} {told : List TopicPartition} (h : Checks n o tp t rs result told) :
    Tells n rs t.network (result.map Option.toList) := by
  cases h with
  | known => exact .everything (List.forall_mem_nil _) rfl
  | unanswered new answer =>
    obtain ⟨hone, hkind⟩ := (refusals_endRequest n o tp _).2 _ answer
    exact .failed hone (.inl hkind)
  | unknown new answer => exact .everything (List.forall_mem_nil _) ((refusals_endRequest n o tp _).1 _ answer)
  | lost new answer position broker =>
    have hone := (refusals_position answer).trans (Network.refusals_of_error position)
    exact .handedOn (List.forall_mem_nil _) hone rfl broker
  | broken new answer position broker =>
    have hone := (refusals_position answer).trans (Network.refusals_of_error position)
    exact .failed hone (.inr broker)
  | before new answer position =>
    exact .everything (List.forall_mem_nil _) ((refusals_position answer).trans (Network.refusals_of_ok position))
  | reached new answer position =>
    exact .everything (List.forall_mem_singleton.mpr rfl)
      ((refusals_position answer).trans (Network.refusals_of_ok position))

/-- Where no item is a failure, nothing was refused. -/
theorem Tells.refusals_eq_nil {rs : List Request} {s : ν} {items : List Item} (h : Tells n rs s (.ok items))
    (fine : ∀ topic p f, .failed topic p f ∉ items) :
    n.refusals rs s = [] ∧ ∀ i ∈ items, i.isSound = true := by
  cases h with
  | everything sound none => exact ⟨none, sound⟩
  | handedOn => exact absurd (List.mem_append_right _ (List.mem_singleton_self _)) (fine _ _ _)

/-- **The ends of some streams** are told up to the first refusal. -/
theorem endItems_tells (n : Network ν) (o : TransportOptions) (tps : List TopicPartition) (t : Transport ν) :
    ∃ rs, Inquires n rs t (t.endItems n o tps).2 ∧ Tells n rs t.network (t.endItems n o tps).1 := by
  induction tps generalizing t with
  | nil => exact ⟨[], .refl t, .everything (List.forall_mem_nil _) rfl⟩
  | cons tp rest ih =>
    obtain ⟨rs, hone, hchecks⟩ := endItem_checks n o tp t
    cases hitem : t.endItem n o tp with
    | mk result t₁ =>
    rw [hitem] at hone hchecks
    dsimp only at hone hchecks
    have htells := hchecks.tells
    cases result with
    | error f =>
      rw [endItems, hitem]
      exact ⟨rs, hone, htells⟩
    | ok item =>
    -- Behind a failure nothing more is asked, so it is the last item.
    by_cases hfailed : ∃ topic p f, item = some (.failed topic p f)
    · obtain ⟨topic, p, f, rfl⟩ := hfailed
      rw [endItems_of_failed hitem]
      exact ⟨rs, hone, htells⟩
    · have hfine : ∀ topic p f, item ≠ some (.failed topic p f) := fun topic p f heq => hfailed ⟨topic, p, f, heq⟩
      obtain ⟨hnone, hsound⟩ := htells.refusals_eq_nil fun topic p f hmem =>
        hfine topic p f (Option.mem_toList.mp hmem)
      obtain ⟨qs, hrest, hmore⟩ := ih t₁
      rw [endItems_of_fine hitem hfine]
      rw [hone.asked.network] at hmore
      exact ⟨rs ++ qs, hone.trans hrest, hmore.behind hnone hsound⟩

/-- **A poll** hands on what is refused, where the cluster has to answer. -/
theorem poll_tells {seconds : Double} {ms : Int} (wait : milliseconds seconds = .ok ms) {t : Transport ν}
    (held : Held t) : ∃ rs, Asked n rs t (t.poll n o seconds).2 ∧ (∀ r ∈ rs, r.purpose = .reading)
      ∧ Tells n rs t.network (t.poll n o seconds).1 := by
  have hpolls := poll_polls n o seconds t
  generalize t.poll n o seconds = outcome at hpolls ⊢
  obtain ⟨result, t'⟩ := outcome
  dsimp only at hpolls ⊢
  cases hpolls with
  | closed => exact ⟨[], .refl t, List.forall_mem_nil _, .everything (List.forall_mem_nil _) rfl⟩
  | unheld some unheld =>
    -- A poll of open streams without a consumer would fail, but it cannot come to that.
    rw [held some] at unheld
    cases unheld
  | untimed some untimed =>
    rw [wait] at untimed
    cases untimed
  | unfetched topic some _ asked =>
    obtain ⟨hasked, hanswer, -⟩ := ask_asked asked
    refine ⟨_, hasked, List.forall_mem_singleton.mpr rfl, ?_⟩
    have hone := Network.refusals_of_error hanswer
    split
    · rename_i hbroker
      exact .handedOn (List.forall_mem_nil _) hone rfl hbroker
    · rename_i hother
      exact .failed hone (.inr (by simpa using hother))
  | @fetched _ data t₁ some _ asked =>
    obtain ⟨hasked, hanswer, -⟩ := ask_asked asked
    have hrecords : ∀ i ∈ (t₁.take data).1, i.isSound = true := by
      intro i hi
      obtain ⟨d, -, hmem⟩ := List.mem_flatMap.mp hi
      obtain ⟨r, -, rfl⟩ := List.mem_map.mp hmem
      rfl
    obtain ⟨qs, hinquires, htells⟩ := endItems_tells n o (t.streams.map (·.1)) (t₁.take data).2
    rw [show (t₁.take data).2.network = _ from hasked.network] at htells
    have hcollect : t₁.collect n o (t.streams.map (·.1)) data
        = (((t₁.take data).2.endItems n o (t.streams.map (·.1))).1.map ((t₁.take data).1 ++ ·),
          ((t₁.take data).2.endItems n o (t.streams.map (·.1))).2) := by
      unfold collect
      dsimp only
      generalize (t₁.take data).2.endItems n o (t.streams.map (·.1)) = outcome
      obtain ⟨result, t₂⟩ := outcome
      cases result <;> rfl
    have htake : Asked n [] t₁ (t₁.take data).2 := ⟨rfl, rfl⟩
    rw [hcollect]
    refine ⟨_, (hasked.trans htake).trans hinquires.asked, ?_, ?_⟩
    · refine List.forall_mem_append.mpr ⟨List.forall_mem_singleton.mpr rfl, fun r hr => ?_⟩
      exact (Request.reads_iff r).mp (hinquires.questions r hr).1
    · exact htells.behind (Network.refusals_of_ok hanswer) hrecords

/-! ## Releasing -/

/-- A step of a release: whatever comes of it, it asks for nothing else. -/
structure Releases (n : Network ν) (t t' : Transport ν) : Prop where
  asked : ∃ rs, Asked n rs t t' ∧ ∀ r ∈ rs, r.purpose = .releasing
  streams : t'.streams = t.streams
  hasConsumer : t'.hasConsumer = t.hasConsumer

theorem askIf_releases (n : Network ν) (held : Bool) {r : Request} (kind : r.purpose = .releasing) (t : Transport ν) :
    Releases n t (t.askIf held n r).2 := by
  cases held with
  | false => exact ⟨⟨[], .refl t, List.forall_mem_nil _⟩, rfl, rfl⟩
  | true =>
    rw [askIf_of_held rfl]
    exact ⟨⟨[r], ⟨rfl, rfl⟩, List.forall_mem_singleton.mpr kind⟩, rfl, rfl⟩

theorem closeStream_releases (n : Network ν) (topic : String) (p : Int) (t : Transport ν) :
    (∃ rs, Asked n rs t (t.closeStream n topic p).2 ∧ ∀ r ∈ rs, r.purpose = .releasing)
      ∧ (Held t → Held (t.closeStream n topic p).2) := by
  unfold closeStream
  dsimp only
  split
  · obtain ⟨⟨rs, hasked, hkinds⟩, hstreams, hconsumer⟩ := askIf_releases n t.hasConsumer (r := .pause ⟨topic, p⟩) rfl
      { t with
        streams := t.streams.filter (·.1 ≠ ⟨topic, p⟩)
        ended := t.ended.filter (· ≠ ⟨topic, p⟩) }
    refine ⟨⟨rs, ⟨hasked.requests, hasked.network⟩, hkinds⟩, fun hheld hsome => ?_⟩
    rw [hstreams] at hsome
    rw [hconsumer]
    refine hheld fun hnone => hsome ?_
    show t.streams.filter _ = []
    rw [hnone]
    rfl
  · exact ⟨⟨[], .refl t, List.forall_mem_nil _⟩, id⟩

theorem stop_releases (n : Network ν) (t : Transport ν) :
    (∃ rs, Asked n rs t (t.stop n).2 ∧ ∀ r ∈ rs, r.purpose = .releasing) ∧ Held (t.stop n).2 := by
  unfold stop
  dsimp only
  -- The streams are forgotten before anything is asked, whatever comes of it.
  obtain ⟨⟨rs, hasked, hkinds⟩, hstreams, -⟩ := askIf_releases n t.hasConsumer (r := .stopConsumer) rfl
    { t with hasConsumer := false, hasAdmin := false, streams := [], ended := [] }
  generalize (askIf t.hasConsumer n .stopConsumer _).2 = bare at hasked hstreams ⊢
  obtain ⟨⟨qs, hlast, hmore⟩, hsame, -⟩ := askIf_releases n t.hasAdmin (r := .closeAdmin) rfl bare
  refine ⟨⟨rs ++ qs, .trans ⟨hasked.requests, hasked.network⟩ hlast, ?_⟩, fun hsome => absurd ?_ hsome⟩
  · exact List.forall_mem_append.mpr ⟨hkinds, hmore⟩
  · exact hsame.trans hstreams

/-! ## Any call -/

/-- What a call is to make of a refusal. -/
def voiceOf (o : TransportOptions) : Call → Request → Failure → Failure
  | .start => startVoice o.connection
  | .fetch topic seconds => fun _ f => fetchFailure topic seconds f
  | _ => rawVoice

/-- What a call asks for. -/
def purposeOf : Call → Request.Purpose
  | .start => .starting
  | .fetch .. => .describing
  | .openStream .. => .placing
  | .poll => .reading
  | .closeStream .. | .stop => .releasing

/-- **What a call comes to**, by the requests that it makes: before the first poll it fails with a refusal; a poll
    tells of them; nothing is said of a release. -/
structure Serves (n : Network ν) (o : TransportOptions) (rs : List Request) (s : ν) (call : Call)
    (result : Except Failure Yield) : Prop where
  kinds : ∀ r ∈ rs, r.purpose = purposeOf call
  refused : (Event.call call).stage = .setup → ∀ y ∈ n.refusals rs s, result = .error (voiceOf o call y.1 y.2)
  polled : call = .poll → ∃ items, result = items.map .items ∧ Tells n rs s items

theorem Tries.serves (call : Call) {rs : List Request} {t t' : Transport ν} {result : Except Failure α}
    {g : α → Yield} (h : Tries n (purposeOf call) (voiceOf o call) rs t t' result)
    (setup : (Event.call call).stage = .setup) : Serves n o rs t.network call (result.map g) where
  kinds := h.kinds
  refused := fun _ y hy => by rw [h.refused y hy]; rfl
  polled := fun hpoll => by rw [hpoll] at setup; cases setup

theorem Serves.of_release {call : Call} {rs : List Request} {s : ν} (result : Except Failure Yield)
    (release : purposeOf call = .releasing) (kinds : ∀ r ∈ rs, r.purpose = .releasing) :
    Serves n o rs s call result := by
  refine ⟨fun r hr => (kinds r hr).trans release.symm, fun hsetup => ?_, fun hpoll => ?_⟩
  · match call with
    | .closeStream .. | .stop => cases hsetup
    | .start | .fetch .. | .openStream .. | .poll => cases release
  · rw [hpoll] at release
    cases release

/-- The wait of a poll is a tenth of a second. -/
theorem pollWait_timed : milliseconds Run.pollWait = .ok 100 := ok_of_toOption (by decide +kernel)

/-- **Every call** of a client that reads through a transport comes to what its requests say. -/
theorem respond_serves (n : Network ν) (o : TransportOptions) (call : Call) {t : Transport ν} (held : Held t) :
    ∃ rs, Asked n rs t ((client n o).respond call t).2 ∧ Held ((client n o).respond call t).2
      ∧ Serves n o rs t.network call ((client n o).respond call t).1.result := by
  cases call with
  | start =>
    obtain ⟨rs, htries⟩ := start_tries n o t
    exact ⟨rs, htries.asked, htries.held held, htries.serves .start rfl⟩
  | fetch topic seconds =>
    obtain ⟨rs, htries⟩ := fetch_tries n topic seconds t
    exact ⟨rs, htries.asked, htries.held held, htries.serves (.fetch topic seconds) rfl⟩
  | openStream topic p start =>
    obtain ⟨rs, htries⟩ := openStream_tries n topic p (.offset start) t
    exact ⟨rs, htries.asked, htries.held held, htries.serves (.openStream topic p start) rfl⟩
  | poll =>
    obtain ⟨rs, hasked, hkinds, htells⟩ := poll_tells (n := n) (o := o) pollWait_timed held
    obtain ⟨hstreams, hconsumer, -⟩ := (poll_polls n o Run.pollWait t).inquires
    exact ⟨rs, hasked, held.of_keeps hstreams hconsumer, hkinds, fun h => (nomatch h), fun _ => ⟨_, rfl, htells⟩⟩
  | closeStream topic p =>
    obtain ⟨⟨rs, hasked, hkinds⟩, hheld⟩ := closeStream_releases n topic p t
    exact ⟨rs, hasked, hheld held, .of_release _ rfl hkinds⟩
  | stop =>
    obtain ⟨⟨rs, hasked, hkinds⟩, hheld⟩ := stop_releases n t
    exact ⟨rs, hasked, hheld, .of_release _ rfl hkinds⟩

end Transport

end TopicReader
