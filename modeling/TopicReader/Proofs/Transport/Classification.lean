import TopicReader.Proofs.Fields
import TopicReader.Proofs.Run.Failing
import TopicReader.Proofs.Transport.Delivery
import TopicReader.Proofs.Transport.Dequeuing
import TopicReader.Proofs.Transport.Refusals

/-!
# `Proofs.Transport.Classification` — every refusal of the cluster is reported under its category

A run that reads through a transport may be refused any request. Raw failures are wrapped in four places: at the start,
at the query for metadata, where a stream cannot be opened, and where the loop meets a failure in its queue. Here it is
shown for whole runs that no refusal slips through: where one request is refused and nothing else fails, the run ends
with exit code one and reports that refusal under the category of the request. The one exception is a failure in the
queue that is not reached, since the run was stopped before its turn.

Nothing is relied on but that the sink works. The run may be stopped from outside at any time.

## Contents
- **Stops from outside.** `Client.interrupted`.
- **Requests of a run.** `Explains`, `history_explains`: what each call of a run came to, by all its requests.
- **The only refusal.** `Explains.culprit`: the call that met it; `Explains.polled`: what polls bring then.
- **Categories.** `Classified`: what a failure of the cluster's client is reported as; `Classified.of_setup` before
  the first poll and `Classified.of_queue` in the loop.
- **Records.** `Report.failureFields_category`.
- **Two ways out.** `Explains.failed_in_setup`; for a refusal in the queue `Unreached` and `Explains.unreached_iff`.
- **The law.** `Reported`, and `consume_classifies`.
-/

namespace TopicReader

open Run

variable {σ ν α : Type}

/-! ## Stops from outside -/

/-- A reply beside which the run is stopped for some reasons. -/
def Reply.beside (r : Reply α) (reasons : List String) : Reply α := ⟨r.incidents ++ reasons.map .stop, r.result⟩

namespace Client

/-- A call of a client beside which the run is stopped, by the number of the call. -/
def beside (stops : Nat → List String) (f : σ → Reply α × σ) (s : σ × Nat) : Reply α × (σ × Nat) :=
  ((f s.1).1.beside (stops s.2), (f s.1).2, s.2 + 1)

/-- **A client whose run is stopped from outside** beside some of its calls. -/
def interrupted (c : Client σ) (stops : Nat → List String) : Client (σ × Nat) where
  start := beside stops c.start
  stop := beside stops c.stop
  fetch topic seconds := beside stops (c.fetch topic seconds)
  openStream topic p start := beside stops (c.openStream topic p start)
  closeStream topic p := beside stops (c.closeStream topic p)
  poll seconds := beside stops (c.poll seconds)

/-- Such a client does and replies what the client itself does and replies. -/
theorem interrupted_respond (c : Client σ) (stops : Nat → List String) (call : Call) (s : σ × Nat) :
    ((c.interrupted stops).respond call s).1.incidents
        = (c.respond call s.1).1.incidents ++ (stops s.2).map .stop
      ∧ ((c.interrupted stops).respond call s).1.result = (c.respond call s.1).1.result
      ∧ ((c.interrupted stops).respond call s).2 = ((c.respond call s.1).2, s.2 + 1) := by
  cases call <;> exact ⟨rfl, rfl, rfl⟩

/-- Stops are no errors in the log. -/
theorem interrupted_discreet {c : Client σ} (discreet : Discreet c) (stops : Nat → List String) :
    Discreet (c.interrupted stops) := by
  intro call s i hi
  rw [(c.interrupted_respond stops call s).1] at hi
  rcases List.mem_append.mp hi with hi | hi
  · exact discreet call s.1 i hi
  · obtain ⟨why, -, rfl⟩ := List.mem_map.mp hi
    rfl

end Client

namespace Transport

variable {n : Network ν} {o : TransportOptions} {stops : Nat → List String} {sink : Sink}

/-- A transport writes no errors. -/
theorem client_discreet (n : Network ν) (o : TransportOptions) : Discreet (client n o) := by
  intro call t i hi
  cases call with
  | start =>
    obtain rfl : i = connecting o := List.mem_singleton.mp hi
    rfl
  | stop | fetch | openStream | closeStream | poll => cases hi

/-! ## Requests of a run -/

/-- **What the calls of a run came to**, by the refusals among all its requests: each call by those that it met, and
    each refusal was met by a call. -/
structure Explains (n : Network ν) (o : TransportOptions) (hs : List Happening) (ys : List (Request × Failure)) :
    Prop where
  each : ∀ call reply, .called call reply ∈ hs →
    ∃ rs s, Serves n o rs s call reply.result ∧ ∀ y ∈ n.refusals rs s, y ∈ ys
  all : ∀ y ∈ ys, ∃ call reply rs s, .called call reply ∈ hs ∧ Serves n o rs s call reply.result
    ∧ y ∈ n.refusals rs s

/-- Happenings that follow each other. -/
theorem Explains.append {hs gs : List Happening} {xs ys : List (Request × Failure)} (h : Explains n o hs xs)
    (g : Explains n o gs ys) : Explains n o (hs ++ gs) (xs ++ ys) where
  each := by
    intro call reply hmem
    rcases List.mem_append.mp hmem with hmem | hmem
    · obtain ⟨rs, s, hserves, hsub⟩ := h.each call reply hmem
      exact ⟨rs, s, hserves, fun y hy => List.mem_append_left _ (hsub y hy)⟩
    · obtain ⟨rs, s, hserves, hsub⟩ := g.each call reply hmem
      exact ⟨rs, s, hserves, fun y hy => List.mem_append_right _ (hsub y hy)⟩
  all := by
    intro y hy
    rcases List.mem_append.mp hy with hy | hy
    · obtain ⟨call, reply, rs, s, hmem, hserves, hin⟩ := h.all y hy
      exact ⟨call, reply, rs, s, List.mem_append_left _ hmem, hserves, hin⟩
    · obtain ⟨call, reply, rs, s, hmem, hserves, hin⟩ := g.all y hy
      exact ⟨call, reply, rs, s, List.mem_append_right _ hmem, hserves, hin⟩

/-- What is no call asks for nothing. -/
theorem Explains.behind_use {x : Happening} {hs : List Happening} {ys : List (Request × Failure)}
    (use : x.isUse = true) (h : Explains n o hs ys) : Explains n o (x :: hs) ys where
  each := by
    intro call reply hmem
    rcases List.mem_cons.mp hmem with rfl | hmem
    · cases use
    · exact h.each call reply hmem
  all := by
    intro y hy
    obtain ⟨call, reply, rs, s, hmem, hserves, hin⟩ := h.all y hy
    exact ⟨call, reply, rs, s, List.mem_cons_of_mem _ hmem, hserves, hin⟩

/-- One call is explained by its own requests. -/
theorem Explains.of_serves {call : Call} {reply : Reply Yield} {rs : List Request} {s : ν}
    (h : Serves n o rs s call reply.result) : Explains n o [.called call reply] (n.refusals rs s) where
  each := by
    intro call' reply' hmem
    cases List.mem_singleton.mp hmem
    exact ⟨rs, s, h, fun _ hy => hy⟩
  all := fun _ hy => ⟨call, reply, rs, s, List.mem_singleton_self _, h, hy⟩

/-- **Any events** of a run through a transport are explained by the requests that were asked with them. -/
theorem history_explains (n : Network ν) (o : TransportOptions) (stops : Nat → List String) (sink : Sink)
    (es : List Event) (a : Sides (Transport ν × Nat)) (held : Held a.client.1) :
    ∃ rs, Asked n rs a.client.1 (a.after ((client n o).interrupted stops) sink es).client.1
      ∧ Explains n o (a.history ((client n o).interrupted stops) sink es) (n.refusals rs a.client.1.network) := by
  induction es generalizing a with
  | nil => exact ⟨[], .refl _, fun _ _ h => (nomatch h), List.forall_mem_nil _⟩
  | cons e rest ih =>
    cases e with
    | write bytes =>
      obtain ⟨rs, hasked, hexplains⟩ := ih (a.meet ((client n o).interrupted stops) sink (.write bytes)).2 held
      exact ⟨rs, hasked, hexplains.behind_use rfl⟩
    | flush =>
      obtain ⟨rs, hasked, hexplains⟩ := ih (a.meet ((client n o).interrupted stops) sink .flush).2 held
      exact ⟨rs, hasked, hexplains.behind_use rfl⟩
    | call call =>
      obtain ⟨qs, hone, hheld, hserves⟩ := respond_serves n o call held
      obtain ⟨-, hresult, hnext⟩ := (client n o).interrupted_respond stops call a.client
      rw [← hresult] at hserves
      have hclient : (a.meet ((client n o).interrupted stops) sink (.call call)).2.client.1
          = ((client n o).respond call a.client.1).2 := congrArg Prod.fst hnext
      obtain ⟨rs, hasked, hexplains⟩ := ih (a.meet ((client n o).interrupted stops) sink (.call call)).2
        (hclient ▸ hheld)
      rw [← hclient] at hone
      rw [hone.network] at hexplains
      refine ⟨qs ++ rs, hone.trans hasked, ?_⟩
      rw [Network.refusals_append]
      exact (Explains.of_serves hserves).append hexplains

/-! ## The only refusal -/

section Only

variable {hs : List Happening} {r : Request} {f : Failure} {category : Category}

/-- **The call that met the only refusal**, which the cluster gave to a request of a foreseen kind: it is a call before
    the first poll, and it failed with what it makes of that; or it is a poll, and the failure is its last item. -/
theorem Explains.culprit (h : Explains n o hs [(r, f)]) (foreseen : r.category? = some category)
    (broker : f.isBroker = true) :
    ∃ call is, r.purpose = purposeOf call
      ∧ ((Event.call call).stage = .setup ∧ .called call ⟨is, .error (voiceOf o call r f)⟩ ∈ hs
        ∨ call = .poll ∧ ∃ earlier topic p, .called call ⟨is, .ok (.items (earlier ++ [.failed topic p f]))⟩ ∈ hs) := by
  obtain ⟨call, ⟨is, result⟩, rs, s, hmem, hserves, hin⟩ := h.all (r, f) (List.mem_singleton_self _)
  have hpurpose := hserves.kinds r (Network.mem_of_mem_refusals hin)
  refine ⟨call, is, hpurpose, ?_⟩
  cases call with
  | start | fetch | openStream =>
    refine .inl ⟨rfl, ?_⟩
    have hresult := hserves.refused rfl _ hin
    dsimp only at hresult
    exact hresult ▸ hmem
  | stop | closeStream =>
    -- What a release asks for is of no foreseen kind.
    rw [Request.category?_of_releasing hpurpose] at foreseen
    cases foreseen
  | poll =>
    -- A poll hands it on, since it is a failure of the cluster and the request is of a foreseen kind.
    refine .inr ⟨rfl, ?_⟩
    obtain ⟨items, hresult, htells⟩ := hserves.polled rfl
    dsimp only at hresult
    subst hresult
    cases htells with
    | everything sound none =>
      rw [none] at hin
      cases hin
    | handedOn sound one =>
      rw [one, List.mem_singleton] at hin
      cases hin
      exact ⟨_, _, _, hmem⟩
    | failed one raw =>
      rw [one, List.mem_singleton] at hin
      cases hin
      rcases raw with hnone | hother
      · rw [hnone] at foreseen
        cases foreseen
      · rw [hother] at broker
        cases broker

/-- **Every poll** of such a run succeeds, and the only failure that it hands on is that refusal. -/
theorem Explains.polled (h : Explains n o hs [(r, f)]) (foreseen : r.category? = some category)
    (broker : f.isBroker = true) {reply : Reply Yield} (hmem : .called .poll reply ∈ hs) :
    ∃ items, reply.result = .ok (.items items)
      ∧ ∀ i ∈ items, i.isSound = true ∨ r.purpose = .reading ∧ ∃ topic p, i = .failed topic p f := by
  obtain ⟨rs, s, hserves, hsub⟩ := h.each .poll reply hmem
  obtain ⟨result, hresult, htells⟩ := hserves.polled rfl
  -- Whatever was refused to this poll is the only refusal there is.
  cases htells with
  | @everything items sound none => exact ⟨items, hresult, fun i hi => .inl (sound i hi)⟩
  | @handedOn items topic p q g sound one =>
    have hsame : (q, g) = (r, f) := List.mem_singleton.mp (hsub (q, g) (one ▸ List.mem_singleton_self _))
    cases hsame
    have hpurpose := hserves.kinds r (Network.mem_of_mem_refusals (one ▸ List.mem_singleton_self (r, f)))
    refine ⟨_, hresult, List.forall_mem_append.mpr ⟨fun i hi => .inl (sound i hi), ?_⟩⟩
    exact List.forall_mem_singleton.mpr (.inr ⟨hpurpose, topic, p, rfl⟩)
  | @failed q g one raw =>
    have hsame : (q, g) = (r, f) := List.mem_singleton.mp (hsub (q, g) (one ▸ List.mem_singleton_self _))
    cases hsame
    rcases raw with hnone | hother
    · rw [hnone] at foreseen
      cases foreseen
    · rw [hother] at broker
      cases broker

end Only

end Transport

/-! ## Categories -/

/-- **What a failure of the cluster's client is reported as**: a problem of a category, caused by that failure. -/
inductive Classified (f : Failure) : Category → Failure → Prop where
  | connecting (servers : Value) : Classified f .stream (.caused (.connect servers) f)
  | unknown (topic : String) (context : Fields) : Classified f .metadata (.caused (.topicNotFound topic context) f)
  | querying (topic : String) (context : Fields) : Classified f .metadata (.caused (.metadataQuery topic context) f)
  | opening (topic : String) (p : Int) (start : Offset) : Classified f .stream (.caused (.openStream topic p start) f)
  | reading (topic : String) (p : Option Int) (context : Fields) :
    Classified f .stream (.caused (.stream topic p context) f)

namespace Classified

variable {f g : Failure} {category : Category}

theorem isClassified (h : Classified f category g) : g.isClassified = true := by cases h <;> rfl

theorem category? (h : Classified f category g) : g.category? = some category := by cases h <;> rfl

theorem head?_append {a : String} {x : Char} (h : a.toList.head? = some x) (b : String) :
    (a ++ b).toList.head? = some x := by
  rw [String.toList_append, List.head?_append, h]
  rfl

/-- The text begins with another letter than that of an unforeseen failure. -/
theorem text_ne_unexpected (h : Classified f category g) (topic : String) :
    g.text ≠ "Unexpected error consuming " ++ topic := by
  have hfirst : ∃ x, x ≠ 'U' ∧ g.text.toList.head? = some x := by
    cases h with
    | connecting servers =>
      exact ⟨'F', by decide, head?_append (head?_append (head?_append (head?_append (head?_append rfl _) _) _) _) _⟩
    | unknown topic context =>
      exact ⟨'N', by decide, head?_append (head?_append (head?_append rfl _) _) _⟩
    | querying topic context =>
      exact ⟨'F', by decide, head?_append (head?_append (head?_append (head?_append (head?_append rfl _) _) _) _) _⟩
    | opening topic p start =>
      exact ⟨'F', by decide, head?_append (head?_append (head?_append (head?_append (head?_append rfl _) _) _) _) _⟩
    | reading topic p context =>
      exact ⟨'T', by decide, head?_append (head?_append (head?_append (head?_append (head?_append rfl _) _) _) _) _⟩
  obtain ⟨x, hne, hhead⟩ := hfirst
  intro heq
  rw [heq, head?_append (x := 'U') rfl] at hhead
  exact hne (Option.some.inj hhead).symm

/-- A failure of the cluster's client is raw. -/
theorem foreign_of_broker (broker : f.isBroker = true) : ∃ x : Foreign, f = .foreign x ∧ x.isBroker = true := by
  cases f with
  | foreign x => exact ⟨x, rfl, broker⟩
  | mishap | classified | caused => cases broker

/-- **Before the first poll** a refusal is wrapped by the call that meets it, or where the streams are opened. -/
theorem of_setup {r : Request} {call : Call} (foreseen : r.category? = some category) (broker : f.isBroker = true)
    (purpose : r.purpose = Transport.purposeOf call) (setup : (Event.call call).stage = .setup)
    (o : TransportOptions) : Classified f category (call.failure (Transport.voiceOf o call r f)) := by
  obtain rfl := Request.category?_of_purpose foreseen
  obtain ⟨x, rfl, hx⟩ := foreign_of_broker broker
  rw [purpose]
  cases call with
  | start =>
    have hvoice : Transport.voiceOf o .start r (.foreign x) = .caused (.connect o.connection.servers) (.foreign x) := by
      cases r with
      | startConsumer | startAdmin => exact if_pos broker
      | makeConsumer | makeAdmin => cases foreseen
      | _ => cases purpose
    rw [hvoice]
    exact .connecting _
  | fetch topic seconds =>
    -- Timeouts of the query are told apart, but no failure of the cluster is one.
    have htimeout : (Failure.foreign x).isTimeout = false := by
      show x.isTimeout = false
      have hfamily : x.family = .broker := by simpa [Foreign.isBroker] using hx
      rw [Foreign.isTimeout, hfamily]
      rfl
    show Classified (.foreign x) .metadata (Transport.fetchFailure topic seconds (.foreign x))
    unfold Transport.fetchFailure
    rw [htimeout, if_neg Bool.false_ne_true, if_pos broker]
    unfold Failure.ofMetadataQuery
    rw [show (Failure.foreign x).isClassified = false from rfl, if_neg Bool.false_ne_true]
    dsimp only
    split
    · exact .unknown topic _
    · exact .querying topic _
  | openStream topic p start =>
    -- The transport hands this one on raw: it is the run that wraps it.
    exact .opening topic p start
  | stop | closeStream | poll => cases setup

/-- **In the queue** a refusal is wrapped by the loop that meets it. -/
theorem of_queue {r : Request} (foreseen : r.category? = some category) (broker : f.isBroker = true)
    (reads : r.purpose = .reading) (topic : String) (p : Option Int) :
    Classified f category (f.ofStream topic p []) := by
  obtain rfl := Request.category?_of_purpose foreseen
  obtain ⟨x, rfl, -⟩ := foreign_of_broker broker
  rw [reads]
  exact .reading topic p _

end Classified

/-! ## Records -/

namespace Report

variable {f : Failure}

/-- What the caller gives stays beside the context of a failure. -/
theorem get?_withContext {given : Fields} {key : String} {v : Value} (h : given.get? key = some v) :
    (withContext f given).get? key = some v := by
  unfold withContext
  induction f.context generalizing given with
  | nil => exact h
  | cons e rest ih =>
    rw [List.foldl_cons]
    apply ih
    split
    · exact h
    · exact Fields.get?_putNew h e.1 e.2

/-- **The record of a failure** has its category, unless the caller gave another one. -/
theorem failureFields_category {c : Category} (h : f.category? = some c) {given : Fields}
    (absent : given.get? "error_category" = none) :
    (failureFields f given).get? "error_category" = some (.text c.word) := by
  have hgiven : (withCategory f given).get? "error_category" = some (.text c.word) := by
    have hnull : ((given.get? "error_category").getD .null).isNull = true := by rw [absent]; rfl
    rw [withCategory, if_pos hnull, h]
    dsimp only
    rw [Fields.get?_put, if_pos rfl]
  apply Fields.get?_putNew
  rw [Fields.get?_put, if_neg (by decide)]
  exact get?_withContext hgiven

end Report

/-! ## Two ways out -/

/-- **A failure in the queue that is not reached**: it is the last item of a poll, and when its turn comes the run is
    stopped, by an item before it or from outside. -/
def Unreached (s : Settings) (sink : Sink) (st : Standing) (hs : List Happening) (f : Failure) : Prop :=
  ∃ before reply after earlier topic p, hs = before ++ .called .poll reply :: after
    ∧ reply.result = .ok (.items (earlier ++ [.failed topic p f]))
    ∧ (st.after ((finishIn s sink hs (cuesBefore before reply earlier)).bind Finish.reason?)).isRunning = false

namespace Transport

variable {n : Network ν} {o : TransportOptions} {stops : Nat → List String} {sink : Sink} {hs : List Happening}
  {r : Request} {f : Failure} {category : Category}

/-- **The whole history** of a run is explained by all its requests. -/
theorem explains_of_requests {network : ν} {st : Standing} {j : Journal} {last : Run (Transport ν × Nat)}
    (history : (opening (Transport.idle network, 0) st j).sides.history ((client n o).interrupted stops) sink
      (hs.map Happening.event) = hs)
    (sides : (opening (Transport.idle network, 0) st j).sides.after ((client n o).interrupted stops) sink
      (hs.map Happening.event) = last.sides) :
    Explains n o hs (n.refusals last.client.1.requests.reverse network) := by
  have hidle : Held (Transport.idle network) := fun hsome => absurd rfl hsome
  obtain ⟨rs, hasked, hexplains⟩ := history_explains n o stops sink (hs.map Happening.event)
    (opening (Transport.idle network, 0) st j).sides hidle
  have hrequests : last.client.1.requests.reverse = rs := by
    rw [sides] at hasked
    have heq := hasked.requests
    change last.client.1.requests = rs.reverse ++ [] at heq
    rw [heq, List.append_nil, List.reverse_reverse]
  rw [history] at hexplains
  rw [hrequests]
  exact hexplains

/-- A failure in the queue is that refusal, and it was met where the queue is read. -/
theorem Explains.queued (h : Explains n o hs [(r, f)]) (foreseen : r.category? = some category)
    (broker : f.isBroker = true) {reply : Reply Yield} (polled : .called .poll reply ∈ hs) {items : List Item}
    (brought : reply.result = .ok (.items items)) {i : Item} (hi : i ∈ items) (unsound : i.isSound = false) :
    r.purpose = .reading ∧ ∃ topic p, i = .failed topic p f := by
  obtain ⟨all, hresult, hitems⟩ := h.polled foreseen broker polled
  rw [brought] at hresult
  cases hresult
  rcases hitems i hi with hsound | hqueued
  · rw [unsound] at hsound
    cases hsound
  · exact hqueued

/-- With a sink that works, nothing fails in the loop itself. -/
theorem Explains.transfer_fine (h : Explains n o hs [(r, f)]) (foreseen : r.category? = some category)
    (broker : f.isBroker = true) (uses : ∀ x ∈ hs, x.isUse = true → x.failed = false) :
    ∀ x ∈ hs, x.event.stage = .transfer → x.failed = false := by
  intro x hx hstage
  cases x with
  | called call reply =>
    cases call with
    | poll =>
      obtain ⟨items, hresult, -⟩ := h.polled foreseen broker hx
      show reply.result.toOption.isNone = false
      rw [hresult]
      rfl
    | start | stop | fetch | openStream | closeStream => cases hstage
  | wrote | flushed => exact uses _ hx rfl

/-- **With a sink that works**, reading breaks off with that refusal only. -/
theorem Explains.broken (h : Explains n o hs [(r, f)]) (foreseen : r.category? = some category)
    (broker : f.isBroker = true) (works : sink.Works) {s : Settings} {g : Failure}
    (broken : finishIn s sink hs (cuesIn hs) = some (.broken g)) : Classified f category g := by
  rcases Rule.broken_of_works (works.rule s _) broken with ⟨topic, p, e, hmem, rfl⟩ | ⟨v, hmem⟩
  · obtain ⟨reply, items, hpolled, hresult, hin⟩ := mem_cuesIn_item hmem
    obtain ⟨hreads, topic', p', hsame⟩ := h.queued foreseen broker hpolled hresult hin rfl
    cases hsame
    exact .of_queue foreseen broker hreads topic p
  · obtain ⟨reply, items, hpolled, hresult, hin⟩ := mem_cuesIn_item hmem
    obtain ⟨-, topic, p, hsame⟩ := h.queued foreseen broker hpolled hresult hin rfl
    cases hsame

/-- **Whether that refusal ends the run** is decided when its turn comes: by whether the run still goes on. -/
theorem Explains.fatal_iff_reached (h : Explains n o hs [(r, f)]) (foreseen : r.category? = some category)
    (broker : f.isBroker = true) (uses : ∀ x ∈ hs, x.isUse = true → x.failed = false) {σ : Type} {c : Client σ}
    {s : Settings} {start : Offset} {fuel : Nat} {st final : Standing} {ending : Ending} {output : Output}
    (goes : Goes c s start sink fuel st hs ending final output) {before after : List Happening}
    {reply : Reply Yield} {earlier : List Item} {topic : String} {p : Option Int}
    (parts : hs = before ++ .called .poll reply :: after)
    (brought : reply.result = .ok (.items (earlier ++ [.failed topic p f]))) :
    ending = .fatal
      ↔ (st.after ((finishIn s sink hs (cuesBefore before reply earlier)).bind Finish.reason?)).isRunning = true := by
  have hpolled : Happening.called .poll reply ∈ hs := by
    rw [parts]
    exact List.mem_append_right _ List.mem_cons_self
  rw [goes.fatal_iff_of_fine ⟨_, hpolled, rfl⟩ (h.transfer_fine foreseen broker uses),
    finishIn_of_failed s sink parts brought]
  cases st with
  | stopped why => simp [Standing.isRunning]
  | running =>
    -- What ended reading before is either a stop or a failure; with neither, the item itself is one.
    cases finishIn s sink hs (cuesBefore before reply earlier) with
    | none => simp [Standing.isRunning]
    | some fin => cases fin <;> simp [Finish.reason?, Standing.after, Standing.stop, Standing.isRunning]

/-- **With a refusal in the queue** the run ends well exactly if that was not reached. -/
theorem Explains.unreached_iff (h : Explains n o hs [(r, f)]) (foreseen : r.category? = some category)
    (broker : f.isBroker = true) (uses : ∀ x ∈ hs, x.isUse = true → x.failed = false) {σ : Type} {c : Client σ}
    {s : Settings} {start : Offset} {fuel : Nat} {st final : Standing} {ending : Ending} {output : Output}
    (goes : Goes c s start sink fuel st hs ending final output) {is : List Incident} {earlier : List Item}
    {topic : String} {p : Option Int}
    (polled : .called .poll ⟨is, .ok (.items (earlier ++ [.failed topic p f]))⟩ ∈ hs) :
    Unreached s sink st hs f ↔ ending = .fine := by
  constructor
  · rintro ⟨before, reply, after, earlier, topic, p, parts, brought, stopped⟩
    have hdecides := h.fatal_iff_reached foreseen broker uses goes parts brought
    rcases goes.kept with rfl | rfl
    · rfl
    · rw [hdecides.mp rfl] at stopped
      cases stopped
  · rintro rfl
    obtain ⟨before, after, parts⟩ := List.append_of_mem polled
    have hdecides := h.fatal_iff_reached foreseen broker uses goes parts rfl
    refine ⟨before, _, after, earlier, topic, p, parts, rfl, Bool.eq_false_iff.mpr fun hruns => ?_⟩
    have hfatal := hdecides.mpr hruns
    cases hfatal

/-- **Before the first poll** that refusal is what the run ends with. -/
theorem Explains.failed_in_setup (foreseen : r.category? = some category) (broker : f.isBroker = true)
    {call : Call} {is : List Incident} (purpose : r.purpose = purposeOf call)
    (setup : (Event.call call).stage = .setup) (failed : .called call ⟨is, .error (voiceOf o call r f)⟩ ∈ hs)
    {result : Except Failure Unit} (accounts : TopicReader.Accounts hs result) :
    ∃ g, result = .error g ∧ Classified f category g := by
  refine ⟨_, accounts call is _ failed ?_, .of_setup foreseen broker purpose setup o⟩
  rw [setup]
  decide

/-- A refusal that was met before the first poll is no item that was not reached. -/
theorem Explains.not_unreached (h : Explains n o hs [(r, f)]) (foreseen : r.category? = some category)
    (broker : f.isBroker = true) {call : Call} (purpose : r.purpose = purposeOf call)
    (setup : (Event.call call).stage = .setup) {s : Settings} {st : Standing} : ¬ Unreached s sink st hs f := by
  rintro ⟨before, reply, after, earlier, topic, p, parts, brought, -⟩
  have hpolled : Happening.called .poll reply ∈ hs := by
    rw [parts]
    exact List.mem_append_right _ List.mem_cons_self
  obtain ⟨hreads, -⟩ := h.queued foreseen broker hpolled brought
    (List.mem_append_right _ (List.mem_singleton_self _)) rfl
  rw [purpose] at hreads
  cases call with
  | start | fetch | openStream => cases hreads
  | stop | closeStream | poll => cases setup

end Transport

/-! ## The law -/

/-- **The one error** in the log of a run tells of a refusal under its category, and not as of something that was
    not foreseen. -/
structure Reported {σ : Type} (f : Failure) (category : Category) (topic : String) (run last : Run σ) : Prop where
  once : last.logged isError = run.logged isError + 1
  record : ∃ e g, last.latestError? = some e ∧ Classified f category g ∧ e.cause = .failure g ∧ e.message = g.text
    ∧ e.message ≠ "Unexpected error consuming " ++ topic
    ∧ e.fields.get? "error_category" = some (.text category.word)

namespace Run

variable {n : Network ν} {o : TransportOptions} {stops : Nat → List String} {sink : Sink} {hs : List Happening}
  {r : Request} {f : Failure} {category : Category}

/-- The record of a failure that stands for a refusal. -/
theorem Reports.classified {topic : String} {g : Failure} {e : Entry} (h : Reports topic g e)
    (classified : Classified f category g) : e.cause = .failure g ∧ e.message = g.text
      ∧ e.message ≠ "Unexpected error consuming " ++ topic
      ∧ e.fields.get? "error_category" = some (.text category.word) := by
  have hmessage : e.message = g.text := by
    rw [h.message, fatalMessage, if_pos classified.isClassified]
  refine ⟨h.cause, hmessage, ?_, ?_⟩
  · rw [hmessage]
    exact classified.text_ne_unexpected topic
  · rw [h.fields]
    exact Report.failureFields_category classified.category? rfl

/-- **A run with that refusal alone** does not use up its fuel: the refusal is met before the first poll or in the
    loop, and both are reasons to end. -/
theorem consumeFrom_ends {s : Settings} {k : Clock} {start : Offset} {fuel : Nat} {network : ν}
    {st : Standing} {j : Journal} {last : Run (Transport ν × Nat)} (foreseen : r.category? = some category)
    (broker : f.isBroker = true) (only : n.refusals last.client.1.requests.reverse network = [(r, f)]) :
    (opening (Transport.idle network, 0) st j).consumeFrom ((Transport.client n o).interrupted stops) sink s k start
      fuel ≠ (none, last) := by
  intro lasts
  obtain ⟨opened, hs, ls, hadds, hconnected, htransfer, hnone⟩ := consumeFrom_lasts (opening_unused _ st j) lasts
  have hexplains := Transport.explains_of_requests hadds.history hadds.sides
  rw [only] at hexplains
  obtain ⟨call, is, -, ⟨hsetup, hfailed⟩ | ⟨rfl, earlier, topic, p, hpolled⟩⟩ := hexplains.culprit foreseen broker
  · rcases List.mem_append.mp hfailed with hmem | hmem
    · have hfine := hconnected.fine _ hmem
      cases hfine
    · have hstage := htransfer _ hmem
      change (Event.call call).stage = _ at hstage
      rw [hsetup] at hstage
      cases hstage
  · rcases List.mem_append.mp hpolled with hmem | hmem
    · have hstage := hconnected.setup _ hmem
      cases hstage
    · have hcue : Cue.item (.failed topic p f) ∈ cuesIn ls := by
        refine List.mem_flatMap.mpr ⟨_, hmem, List.mem_append_right _ (List.mem_map_of_mem ?_)⟩
        exact List.mem_append_right _ (List.mem_singleton_self _)
      have hsome := (s.rule sink opened).finish?_isSome_of_failed [] hcue
      rw [hnone] at hsome
      cases hsome

/-- **Every refusal of the cluster is reported under its category.** Let a run with usable settings read through a
    transport, with a sink that works and whoever stops it, and let one request be refused as the cluster does and
    nothing else. Then the run ends with exit code one, and its log has one error more, which tells of this refusal
    under the category of the request. It is not so only if the refusal was met where the queue is read, and the run
    was stopped when its turn came: then the exit code is zero, and the log has no error more. -/
theorem consume_classifies (n : Network ν) (o : TransportOptions) (stops : Nat → List String) (sink : Sink)
    (works : sink.Works) (s : Settings) (usable : ∃ start, starting s = .ok start) (k : Clock) (fuel : Nat)
    (network : ν) (st : Standing) (j : Journal) (result : Option Ending) (last : Run (Transport ν × Nat))
    (returns : (opening (Transport.idle network, 0) st j).consume ((Transport.client n o).interrupted stops) sink s k
      fuel = (result, last))
    (r : Request) (f : Failure) (category : Category) (foreseen : r.category? = some category)
    (broker : f.isBroker = true) (only : n.refusals last.client.1.requests.reverse network = [(r, f)]) :
    let start := opening (Transport.idle network, 0) st j
    let hs := last.told ((Transport.client n o).interrupted stops) sink (Transport.idle network, 0)
    (¬ Unreached s sink st hs f ∧ result.map Ending.code = some 1 ∧ Reported f category s.topic start last)
      ∨ (Unreached s sink st hs f ∧ r.reads = true ∧ result.map Ending.code = some 0
        ∧ last.logged isError = start.logged isError) := by
  intro start hs
  obtain ⟨first, hfirst⟩ := usable
  have hfrom := returns
  rw [consume_eq hfirst] at hfrom
  cases result with
  | none => exact absurd hfrom (consumeFrom_ends foreseen broker only)
  | some ending =>
  rcases consume_goes returns with ⟨g, hrefused, -⟩ | ⟨_, -, hgoes, hleaves⟩
  · rw [hfirst] at hrefused
    cases hrefused
  have hdiscreet := Client.interrupted_discreet (Transport.client_discreet n o) stops
  obtain ⟨hs', outcome, hagain, hending, haccounts, hbroken, hreports⟩ :=
    consumeFrom_fails hdiscreet (opening_unused _ st j) hfrom
  obtain rfl : hs = hs' := hagain.told_eq.1
  have hexplains := Transport.explains_of_requests hleaves.history hleaves.sides
  rw [only] at hexplains
  -- What the client writes are no errors, so the count of errors is told by the ending.
  have herrors := (hgoes.concluded hleaves).errors
  rw [show notedIn isError hs = 0 from hdiscreet.notedIn_eq_zero sink _ _, Nat.add_zero] at herrors
  have huses : ∀ x ∈ hs, x.isUse = true → x.failed = false := works.fine _ _ _
  have hreported : ∀ g, outcome = .error g → Classified f category g → Reported f category s.topic start last := by
    intro g hg hclassified
    obtain ⟨e, hlatest, hrecord⟩ := hreports g hg
    refine ⟨?_, e, g, hlatest, hclassified, hrecord.classified hclassified⟩
    rw [herrors, hending, hg]
    rfl
  obtain ⟨call, is, hpurpose, ⟨hsetup, hfailed⟩ | ⟨rfl, earlier, topic, p, hpolled⟩⟩ :=
    hexplains.culprit foreseen broker
  · obtain ⟨g, hg, hclassified⟩ := Transport.Explains.failed_in_setup foreseen broker hpurpose hsetup hfailed haccounts
    refine .inl ⟨hexplains.not_unreached foreseen broker hpurpose hsetup, ?_, hreported g hg hclassified⟩
    rw [hending, hg]
    rfl
  · have hunreached := hexplains.unreached_iff foreseen broker huses hgoes hpolled
    rcases hgoes.kept with rfl | rfl
    · exact .inr ⟨hunreached.mpr rfl, r.reads_iff.mpr hpurpose, rfl, herrors⟩
    · obtain ⟨-, g, hg⟩ := (hgoes.fatal_iff_of_fine ⟨_, hpolled, rfl⟩
        (hexplains.transfer_fine foreseen broker huses)).mp rfl
      refine .inl ⟨fun hnot => ?_, rfl, hreported g (hbroken g hg) (hexplains.broken foreseen broker works hg)⟩
      cases hunreached.mp hnot

/-- A refusal to tell a position. -/
def unplaced? : Request × Failure → Option (TopicPartition × Foreign)
  | (.position tp, .foreign x) => some (tp, x)
  | _ => none

/-- Requests cannot be compared, so a refusal is read off by its form. -/
theorem eq_of_unplaced? {ys : List (Request × Failure)} {tp : TopicPartition} {x : Foreign}
    (h : ys.map unplaced? = [some (tp, x)]) : ys = [(.position tp, .foreign x)] := by
  obtain ⟨y, rfl, hy⟩ := List.map_eq_singleton_iff.mp h
  unfold unplaced? at hy
  split at hy
  · cases hy
    rfl
  · cases hy

/-- A broker that does not tell the position of the second partition. A run without a limit fails with that, since it
    is met behind the records of the first poll; a run that stops after one record does not. -/
theorem consume_classifies_of_broker :
    let lost : Foreign := ⟨"KafkaConnectionError", .broker, "coordinator gone", "", none⟩
    let n := (Broker.network 2).refusing fun
      | .position ⟨_, 1⟩ => some (.foreign lost)
      | _ => none
    let c := (Transport.client n .usual).interrupted fun _ => []
    let s (count : Option Int) : Settings := { Settings.usual "events" with count := count }
    let start := opening (Transport.idle Broker.pair, 0) .running .empty
    let outcome (count : Option Int) := start.consume c .steady (s count) ⟨.zero false, .zero false⟩ 5
    ((outcome none).1.map Ending.code = some 1
        ∧ Reported (.foreign lost) .stream "events" start (outcome none).2)
      ∧ (outcome (some 1)).1.map Ending.code = some 0
      ∧ Unreached (s (some 1)) .steady .running ((outcome (some 1)).2.told c .steady (Transport.idle Broker.pair, 0))
        (.foreign lost) := by
  intro lost n c s start outcome
  have hids : TopicMetadata.partitionsFor ⟨"events", true, none, [⟨1, none⟩, ⟨0, none⟩]⟩ "events" none
      = .ok [0, 1] := by
    refine partitionsFor_healthy rfl rfl (by simp) (by simp) "events" ?_
    simp [TopicMetadata.ascending, List.mergeSort, List.MergeSort.Internal.splitInTwo]
  have hunlimited : (outcome none).1.map Ending.code = some 1
      ∧ (n.refusals (outcome none).2.client.1.requests.reverse Broker.pair).map unplaced?
        = [some (⟨"events", 1⟩, lost)] := by
    have hgoes : outcome none = consumeFrom _ _ _ _ .earliest 5 _ := consume_eq (ok_of_toOption (by decide +kernel))
    rw [hgoes]
    unfold consumeFrom body
    rw [connect_eq _ (eq_mk_of_fst rfl) usual_timed (eq_mk_of_fst (ok_of_toOption (by decide +kernel))) hids]
    decide +kernel
  have hlimited : (outcome (some 1)).1.map Ending.code = some 0
      ∧ (n.refusals (outcome (some 1)).2.client.1.requests.reverse Broker.pair).map unplaced?
        = [some (⟨"events", 1⟩, lost)] := by
    have hgoes : outcome (some 1) = consumeFrom _ _ _ _ .earliest 5 _ :=
      consume_eq (ok_of_toOption (by decide +kernel))
    rw [hgoes]
    unfold consumeFrom body
    rw [connect_eq _ (eq_mk_of_fst rfl) usual_timed (eq_mk_of_fst (ok_of_toOption (by decide +kernel))) hids]
    decide +kernel
  have hworks : Sink.Works .steady := ⟨fun _ _ => rfl, fun _ => rfl⟩
  constructor
  · obtain ⟨result, last, hrun⟩ : ∃ result last, outcome none = (result, last) := ⟨_, _, rfl⟩
    rw [hrun] at hunlimited ⊢
    obtain ⟨hone, honly⟩ := hunlimited
    refine ⟨hone, ?_⟩
    rcases consume_classifies n .usual (fun _ => []) .steady hworks (s none)
      ⟨.earliest, ok_of_toOption (by decide +kernel)⟩ ⟨.zero false, .zero false⟩ 5 Broker.pair .running .empty
      result last hrun _ _ .stream rfl rfl (eq_of_unplaced? honly) with ⟨-, -, hreported⟩ | ⟨-, -, hzero, -⟩
    · exact hreported
    · cases hone.symm.trans hzero
  · obtain ⟨result, last, hrun⟩ : ∃ result last, outcome (some 1) = (result, last) := ⟨_, _, rfl⟩
    rw [hrun] at hlimited ⊢
    obtain ⟨hzero, honly⟩ := hlimited
    refine ⟨hzero, ?_⟩
    rcases consume_classifies n .usual (fun _ => []) .steady hworks (s (some 1))
      ⟨.earliest, ok_of_toOption (by decide +kernel)⟩ ⟨.zero false, .zero false⟩ 5 Broker.pair .running .empty
      result last hrun _ _ .stream rfl rfl (eq_of_unplaced? honly) with ⟨-, hone, -⟩ | ⟨hunreached, -⟩
    · cases hone.symm.trans hzero
    · exact hunreached

end Run

end TopicReader
