import TopicReader.Proofs.Transport.Refusals
import TopicReader.Transport.Table

/-!
# `Proofs.Transport.Handles` — both handles are released, once each

A start makes a consumer and an admin client and may break off anywhere: before the first one is made, between the two,
or behind them. A stop releases what is held, the admin client also when the consumer fails to stop, and forgets both
before it asks. So between two stops the books balance: what was granted is what is held, and what is held is what the
next stop releases.

## Contents
- **Calls.** `ClientCall`, `Transport.invoke` and `Transport.invoked`; `StartsOnce`.
- **Books.** `Network.granted`: the requests that were answered; `Accounts`: handles are held for what was granted.
- **Streams.** `Spares`, and `invoke_spares`: calls for streams and metadata leave the handles alone.
- **Starting.** `start_accounts`: what was made is held, wherever a start breaks off.
- **Stopping.** `stop_asked`, and `AtRest`: nothing happens before the next start; `AtRest.invoked_accounts`.
- **The law.** `stop_releases_both`.
-/

namespace TopicReader

variable {ν : Type}

/-! ## Calls -/

/-- A call of a client: of its streams, or of the client itself. -/
inductive ClientCall where
  | start
  | fetch (topic : String) (seconds : Double)
  | stream (call : StreamCall)
  | stop

/-- **Between two starts there is a stop.** -/
def StartsOnce (calls : List ClientCall) : Prop :=
  ∀ before between after, calls = before ++ .start :: (between ++ .start :: after) → .stop ∈ between

namespace StartsOnce

theorem of_append {before calls after : List ClientCall} (h : StartsOnce (before ++ calls ++ after)) :
    StartsOnce calls := by
  rintro front between back rfl
  refine h (before ++ front) between (back ++ after) ?_
  simp only [List.append_assoc, List.cons_append]

/-- A start that is the only one. -/
theorem start_cons {calls : List ClientCall} (h : .start ∉ calls) : StartsOnce (.start :: calls) := by
  intro before between after heq
  exfalso
  apply h
  cases before with
  | nil =>
    rw [(List.cons.inj heq).2]
    exact List.mem_append_right _ List.mem_cons_self
  | cons call before =>
    rw [(List.cons.inj heq).2]
    exact List.mem_append_right _ List.mem_cons_self

/-- Where nothing stops, there is no other start beside one. -/
theorem split {calls : List ClientCall} (h : StartsOnce calls) (running : .stop ∉ calls) (started : .start ∈ calls) :
    ∃ before after, calls = before ++ .start :: after ∧ .start ∉ before ∧ .start ∉ after := by
  obtain ⟨before, after, rfl⟩ := List.append_of_mem started
  refine ⟨before, after, rfl, fun hbefore => ?_, fun hafter => ?_⟩
  · obtain ⟨front, between, rfl⟩ := List.append_of_mem hbefore
    have hstop := h front between after (by simp only [List.append_assoc, List.cons_append])
    exact running (List.mem_append_left _ (List.mem_append_right _ (List.mem_cons_of_mem _ hstop)))
  · obtain ⟨between, back, rfl⟩ := List.append_of_mem hafter
    have hstop := h before between back rfl
    exact running (List.mem_append_right _ (List.mem_cons_of_mem _ (List.mem_append_left _ hstop)))

end StartsOnce

/-! ## Books -/

namespace Request

/-- Does it make a consumer? -/
def makesConsumer : Request → Bool
  | makeConsumer _ => true
  | _ => false

/-- Does it make an admin client? -/
def makesAdmin : Request → Bool
  | makeAdmin _ => true
  | _ => false

/-- Does it release a handle? -/
def releasesHandle : Request → Bool
  | stopConsumer | closeAdmin => true
  | _ => false

/-- Does it neither make nor release a handle? -/
def sparesHandles (r : Request) : Bool := !r.makesConsumer && !r.makesAdmin && !r.releasesHandle

end Request

namespace Network

variable {n : Network ν}

/-- **The requests that are granted** among some. -/
def granted (n : Network ν) : List Request → ν → List Request
  | [], _ => []
  | r :: rest, s => (if (n.refusal? r s).isNone then [r] else []) ++ n.granted rest (n.answer r s).2

theorem granted_append (rs qs : List Request) (s : ν) :
    n.granted (rs ++ qs) s = n.granted rs s ++ n.granted qs (n.after rs s) := by
  induction rs generalizing s with
  | nil => rfl
  | cons r rest ih => rw [List.cons_append, granted, granted, ih, List.append_assoc]; rfl

theorem granted_of_ok {r : Request} {s : ν} {a : r.Answer} (h : (n.answer r s).1 = .ok a) :
    n.granted [r] s = [r] := by
  simp [granted, refusal?, h]

theorem granted_of_error {r : Request} {s : ν} {f : Failure} (h : (n.answer r s).1 = .error f) :
    n.granted [r] s = [] := by
  simp [granted, refusal?, h]

/-- What is granted was asked. -/
theorem mem_of_mem_granted {rs : List Request} {s : ν} {r : Request} (h : r ∈ n.granted rs s) : r ∈ rs := by
  induction rs generalizing s with
  | nil => cases h
  | cons q rest ih =>
    rcases List.mem_append.mp h with h | h
    · split at h
      · exact List.mem_singleton.mp h ▸ List.mem_cons_self
      · cases h
    · exact List.mem_cons_of_mem _ (ih h)

/-- **What is made** by some requests: those of a kind that are granted. -/
def made (n : Network ν) (kind : Request → Bool) (rs : List Request) (s : ν) : List Request :=
  (n.granted rs s).filter kind

theorem made_append (kind : Request → Bool) (rs qs : List Request) (s : ν) :
    n.made kind (rs ++ qs) s = n.made kind rs s ++ n.made kind qs (n.after rs s) := by
  unfold made
  rw [granted_append, List.filter_append]

theorem made_of_ok {r : Request} {s : ν} {a : r.Answer} (h : (n.answer r s).1 = .ok a) (kind : Request → Bool) :
    n.made kind [r] s = [r].filter kind := by
  unfold made
  rw [granted_of_ok h]

theorem made_of_error {r : Request} {s : ν} {f : Failure} (h : (n.answer r s).1 = .error f) (kind : Request → Bool) :
    n.made kind [r] s = [] := by
  unfold made
  rw [granted_of_error h]
  rfl

theorem made_eq_nil {kind : Request → Bool} {rs : List Request} (h : ∀ r ∈ rs, kind r = false) (s : ν) :
    n.made kind rs s = [] := by
  refine List.filter_eq_nil_iff.mpr fun r hr => ?_
  rw [h r (mem_of_mem_granted hr)]
  exact Bool.false_ne_true

end Network

namespace Transport

variable {n : Network ν} {o : TransportOptions}

/-- A call of which only the outcome counts. -/
def withoutAnswer {α : Type} (outcome : Except Failure α × Transport ν) : Except Failure Unit × Transport ν :=
  (outcome.1.map fun _ => (), outcome.2)

/-- Make a call. -/
def invoke (n : Network ν) (o : TransportOptions) (call : ClientCall) (t : Transport ν) :
    Except Failure Unit × Transport ν :=
  match call with
  | .start => t.start n o
  | .fetch topic seconds => withoutAnswer (t.fetch n topic seconds)
  | .stream call => withoutAnswer (t.perform n o call)
  | .stop => t.stop n

/-- A transport after calls, whatever came of each. -/
def invoked (n : Network ν) (o : TransportOptions) (calls : List ClientCall) (t : Transport ν) : Transport ν :=
  calls.foldl (fun t call => (t.invoke n o call).2) t

theorem invoked_append (calls others : List ClientCall) (t : Transport ν) :
    invoked n o (calls ++ others) t = invoked n o others (invoked n o calls t) := List.foldl_append

theorem invoked_cons (call : ClientCall) (calls : List ClientCall) (t : Transport ν) :
    invoked n o (call :: calls) t = invoked n o calls (t.invoke n o call).2 := rfl

/-- **The books of a step** that releases nothing: there is a handle afterwards for each one that there was and each
    one that was made. -/
structure Accounts (n : Network ν) (rs : List Request) (t t' : Transport ν) : Prop where
  asked : Asked n rs t t'
  unreleased : ∀ r ∈ rs, r.releasesHandle = false
  consumers : t'.hasConsumer.toNat = t.hasConsumer.toNat + (n.made Request.makesConsumer rs t.network).length
  admins : t'.hasAdmin.toNat = t.hasAdmin.toNat + (n.made Request.makesAdmin rs t.network).length

theorem Accounts.refl (t : Transport ν) : Accounts n [] t t := ⟨.refl t, List.forall_mem_nil _, rfl, rfl⟩

theorem Accounts.trans {rs qs : List Request} {t₁ t₂ t₃ : Transport ν} (h : Accounts n rs t₁ t₂)
    (g : Accounts n qs t₂ t₃) : Accounts n (rs ++ qs) t₁ t₃ where
  asked := h.asked.trans g.asked
  unreleased := List.forall_mem_append.mpr ⟨h.unreleased, g.unreleased⟩
  consumers := by
    rw [Network.made_append, List.length_append, ← h.asked.network, g.consumers, h.consumers, Nat.add_assoc]
  admins := by
    rw [Network.made_append, List.length_append, ← h.asked.network, g.admins, h.admins, Nat.add_assoc]

/-! ## Streams -/

/-- A step that leaves both handles alone. -/
structure Spares (n : Network ν) (t t' : Transport ν) : Prop where
  asked : ∃ rs, Asked n rs t t' ∧ ∀ r ∈ rs, r.sparesHandles = true
  hasConsumer : t'.hasConsumer = t.hasConsumer
  hasAdmin : t'.hasAdmin = t.hasAdmin

namespace Spares

theorem refl (t : Transport ν) : Spares n t t := ⟨⟨[], .refl t, List.forall_mem_nil _⟩, rfl, rfl⟩

theorem trans {t₁ t₂ t₃ : Transport ν} (h : Spares n t₁ t₂) (g : Spares n t₂ t₃) : Spares n t₁ t₃ := by
  obtain ⟨rs, hasked, hkinds⟩ := h.asked
  obtain ⟨qs, gasked, gkinds⟩ := g.asked
  exact ⟨⟨rs ++ qs, hasked.trans gasked, List.forall_mem_append.mpr ⟨hkinds, gkinds⟩⟩,
    g.hasConsumer.trans h.hasConsumer, g.hasAdmin.trans h.hasAdmin⟩

theorem of_ask {r : Request} (spares : r.sparesHandles = true) (t : Transport ν) : Spares n t (t.ask n r).2 :=
  ⟨⟨[r], ⟨rfl, rfl⟩, List.forall_mem_singleton.mpr spares⟩, rfl, rfl⟩

/-- The streams may change. -/
theorem of_streams (t : Transport ν) (streams : List (TopicPartition × StartPoint)) (ended : List TopicPartition) :
    Spares n t { t with streams := streams, ended := ended } :=
  ⟨⟨[], ⟨rfl, rfl⟩, List.forall_mem_nil _⟩, rfl, rfl⟩

/-- Nothing is made where the handles are left alone. -/
theorem accounts {t t' : Transport ν} (h : Spares n t t') : ∃ rs, Accounts n rs t t' := by
  obtain ⟨rs, hasked, hkinds⟩ := h.asked
  have hnone : ∀ r ∈ rs, r.makesConsumer = false ∧ r.makesAdmin = false ∧ r.releasesHandle = false := by
    intro r hr
    simpa [Request.sparesHandles, and_assoc] using hkinds r hr
  refine ⟨rs, hasked, fun r hr => (hnone r hr).2.2, ?_, ?_⟩
  · rw [h.hasConsumer, Network.made_eq_nil fun r hr => (hnone r hr).1]
    rfl
  · rw [h.hasAdmin, Network.made_eq_nil fun r hr => (hnone r hr).2.1]
    rfl

end Spares

theorem fetch_spares (n : Network ν) (topic : String) (seconds : Double) (t : Transport ν) :
    Spares n t (t.fetch n topic seconds).2 := by
  have hone : Spares n t (t.ask n (.describe topic)).2 := .of_ask rfl t
  unfold fetch
  split
  · exact .refl t
  split
  · exact .refl t
  generalize t.ask n (.describe topic) = outcome at hone ⊢
  obtain ⟨result, t₁⟩ := outcome
  match result with
  | .error f => exact hone
  | .ok none => exact hone
  | .ok (some answer) => exact hone

theorem seekTail_spares (n : Network ν) (tp : TopicPartition) (count : Nat) (t : Transport ν) :
    Spares n t (t.seekTail n tp count).2 := by
  have hfirst : Spares n t (t.ask n (.beginningOffset tp)).2 := .of_ask rfl t
  unfold seekTail
  generalize t.ask n (.beginningOffset tp) = outcome at hfirst ⊢
  obtain ⟨result, t₁⟩ := outcome
  cases result with
  | error f => exact hfirst
  | ok first =>
    have hlast : Spares n t₁ (t₁.ask n (.endOffset tp)).2 := .of_ask rfl t₁
    dsimp only
    generalize t₁.ask n (.endOffset tp) = outcome at hlast ⊢
    obtain ⟨result, t₂⟩ := outcome
    cases result with
    | error f => exact hfirst.trans hlast
    | ok last => exact (hfirst.trans hlast).trans (.of_ask rfl t₂)

theorem place_spares (n : Network ν) (tp : TopicPartition) (start : StartPoint) (t : Transport ν) :
    Spares n t (t.place n tp start).2 := by
  match start with
  | .alien v => exact .refl t
  | .offset .earliest => exact .of_ask rfl t
  | .offset .latest => exact .of_ask rfl t
  | .offset .stored => exact .of_ask rfl t
  | .offset (.absolute k) => exact .of_ask rfl t
  | .offset (.tail count) => exact seekTail_spares n tp count t

theorem placeEach_spares (n : Network ν) (streams : List (TopicPartition × StartPoint)) (t : Transport ν) :
    Spares n t (t.placeEach n streams).2 := by
  induction streams generalizing t with
  | nil => exact .refl t
  | cons s others ih =>
    obtain ⟨tp, start⟩ := s
    have hone := place_spares n tp start t
    rw [placeEach]
    generalize t.place n tp start = outcome at hone ⊢
    obtain ⟨result, t₁⟩ := outcome
    cases result with
    | error f => exact hone
    | ok u => exact hone.trans (ih t₁)

theorem openStream_spares (n : Network ν) (topic : String) (p : Int) (start : StartPoint) (t : Transport ν) :
    Spares n t (t.openStream n topic p start).2 := by
  unfold openStream
  dsimp only
  split
  · exact .refl t
  have hassign : Spares n t (t.ask n (.assign ((withStart t.streams ⟨topic, p⟩ start).map (·.1)))).2 := .of_ask rfl t
  generalize t.ask n (.assign ((withStart t.streams ⟨topic, p⟩ start).map (·.1))) = outcome at hassign ⊢
  obtain ⟨result, t₁⟩ := outcome
  cases result with
  | error f => exact hassign
  | ok u =>
    have hplaced := hassign.trans (placeEach_spares n (withStart t.streams ⟨topic, p⟩ start) t₁)
    dsimp only
    generalize t₁.placeEach n (withStart t.streams ⟨topic, p⟩ start) = outcome at hplaced ⊢
    obtain ⟨result, t₂⟩ := outcome
    cases result with
    | error f => exact hplaced
    | ok u => exact hplaced.trans (.of_streams t₂ _ _)

theorem closeStream_spares (n : Network ν) (topic : String) (p : Int) (t : Transport ν) :
    Spares n t (t.closeStream n topic p).2 := by
  unfold closeStream
  dsimp only
  split
  · refine (Spares.of_streams t (t.streams.filter (·.1 ≠ ⟨topic, p⟩)) (t.ended.filter (· ≠ ⟨topic, p⟩))).trans ?_
    cases t.hasConsumer with
    | false => exact .refl _
    | true =>
      rw [askIf_of_held rfl]
      exact .of_ask rfl _
  · exact .refl t

theorem endItem_spares (n : Network ν) (o : TransportOptions) (tp : TopicPartition) (t : Transport ν) :
    Spares n t (t.endItem n o tp).2 := by
  have hend : Spares n t (t.endOf n o tp).2 := by
    unfold endOf
    split
    · exact .of_ask rfl t
    · exact .of_ask rfl t
  unfold endItem
  split
  · exact .refl t
  generalize t.endOf n o tp = outcome at hend ⊢
  obtain ⟨result, t₁⟩ := outcome
  match result with
  | .error f => exact hend
  | .ok none => exact hend
  | .ok (some last) =>
    have hposition := hend.trans (.of_ask (r := .position tp) rfl t₁)
    dsimp only
    generalize t₁.ask n (.position tp) = outcome at hposition ⊢
    obtain ⟨result, t₂⟩ := outcome
    cases result with
    | error f => exact hposition
    | ok position =>
      dsimp only
      split
      · exact hposition.trans (.of_streams t₂ t₂.streams _)
      · exact hposition

theorem endItems_spares (n : Network ν) (o : TransportOptions) (tps : List TopicPartition) (t : Transport ν) :
    Spares n t (t.endItems n o tps).2 := by
  induction tps generalizing t with
  | nil => exact .refl t
  | cons tp rest ih =>
    have hone := endItem_spares n o tp t
    cases hitem : t.endItem n o tp with
    | mk result t₁ =>
    rw [hitem] at hone
    cases result with
    | error f =>
      rw [endItems, hitem]
      exact hone
    | ok item =>
    -- Behind a failure nothing more is asked.
    by_cases hfailed : ∃ topic p f, item = some (.failed topic p f)
    · obtain ⟨topic, p, f, rfl⟩ := hfailed
      rw [endItems_of_failed hitem]
      exact hone
    · rw [endItems_of_fine hitem fun topic p f heq => hfailed ⟨topic, p, f, heq⟩]
      exact hone.trans (ih t₁)

theorem poll_spares (n : Network ν) (o : TransportOptions) (seconds : Double) (t : Transport ν) :
    Spares n t (t.poll n o seconds).2 := by
  have hfetch : ∀ ms result t₁, t.ask n (.getMany (t.streams.map (·.1)) ms) = (result, t₁) → Spares n t t₁ := by
    intro ms result t₁ hask
    have hone : Spares n t (t.ask n (.getMany (t.streams.map (·.1)) ms)).2 := .of_ask rfl t
    rwa [hask] at hone
  have hpolls := poll_polls n o seconds t
  generalize t.poll n o seconds = outcome at hpolls ⊢
  obtain ⟨result, t'⟩ := outcome
  dsimp only at hpolls ⊢
  cases hpolls with
  | closed | unheld | untimed => exact .refl _
  | unfetched topic some wait asked => exact hfetch _ _ _ asked
  | @fetched _ data t₁ some wait asked =>
    have hends : Spares n (t₁.take data).2 ((t₁.take data).2.endItems n o (t.streams.map (·.1))).2 :=
      endItems_spares n o _ _
    have htake : Spares n t₁ (t₁.take data).2 := .of_streams t₁ t₁.streams _
    have hall := ((hfetch _ _ _ asked).trans htake).trans hends
    unfold collect
    dsimp only
    generalize (t₁.take data).2.endItems n o (t.streams.map (·.1)) = outcome at hall ⊢
    obtain ⟨result, t₂⟩ := outcome
    cases result <;> exact hall

/-- **Calls for streams and metadata** leave the handles alone. -/
theorem invoke_spares {call : ClientCall} (notStart : call ≠ .start) (notStop : call ≠ .stop) (t : Transport ν) :
    Spares n t (t.invoke n o call).2 := by
  match call with
  | .start => exact absurd rfl notStart
  | .stop => exact absurd rfl notStop
  | .fetch topic seconds => exact fetch_spares n topic seconds t
  | .stream (.openStream topic p start) => exact openStream_spares n topic p start t
  | .stream (.closeStream topic p) => exact closeStream_spares n topic p t
  | .stream (.poll seconds) => exact poll_spares n o seconds t

theorem invoked_spares {calls : List ClientCall} (notStarted : .start ∉ calls) (notStopped : .stop ∉ calls)
    (t : Transport ν) : Spares n t (invoked n o calls t) := by
  induction calls generalizing t with
  | nil => exact .refl t
  | cons call rest ih =>
    rw [List.mem_cons, not_or] at notStarted notStopped
    rw [invoked_cons]
    exact (invoke_spares (Ne.symm notStarted.1) (Ne.symm notStopped.1) t).trans (ih notStarted.2 notStopped.2 _)

/-! ## Starting -/

/-- Asking leaves both handles alone. -/
theorem ask_handles {r : Request} {t t' : Transport ν} {result : Except Failure r.Answer}
    (h : t.ask n r = (result, t')) : t'.hasConsumer = t.hasConsumer ∧ t'.hasAdmin = t.hasAdmin := by
  have hnext : (t.ask n r).2 = t' := congrArg Prod.snd h
  rw [← hnext]
  exact ⟨rfl, rfl⟩

/-- A request that is refused makes nothing. -/
theorem Accounts.of_refused {r : Request} {t t' : Transport ν} {f : Failure} (h : t.ask n r = (.error f, t'))
    (noRelease : r.releasesHandle = false) : Accounts n [r] t t' := by
  obtain ⟨hasked, hanswer, -⟩ := ask_asked h
  obtain ⟨hconsumer, hadmin⟩ := ask_handles h
  refine ⟨hasked, List.forall_mem_singleton.mpr noRelease, ?_, ?_⟩
  · rw [Network.made_of_error hanswer, hconsumer]
    rfl
  · rw [Network.made_of_error hanswer, hadmin]
    rfl

/-- **Making the consumer**, where there is none. -/
theorem makeConsumer_accounts {t : Transport ν} (unheld : t.hasConsumer = false) :
    (∃ rs, Accounts n rs t (t.makeConsumer n o).2) ∧ (t.makeConsumer n o).2.hasAdmin = t.hasAdmin := by
  unfold makeConsumer
  cases Connection.consumerSettings o.loader o.connection o.properties with
  | error f => exact ⟨⟨[], .refl t⟩, rfl⟩
  | ok settings =>
  dsimp only
  cases hask : t.ask n (.makeConsumer settings) with
  | mk result t₁ =>
  obtain ⟨hasked, hanswer, -⟩ := ask_asked hask
  obtain ⟨hconsumer, hadmin⟩ := ask_handles hask
  cases result with
  | error f => exact ⟨⟨_, .of_refused hask rfl⟩, hadmin⟩
  | ok u =>
    refine ⟨⟨_, ⟨hasked.requests, hasked.network⟩, List.forall_mem_singleton.mpr rfl, ?_, ?_⟩, hadmin⟩
    · rw [Network.made_of_ok hanswer, unheld]
      rfl
    · rw [Network.made_of_ok hanswer, show _ = t.hasAdmin from hadmin]
      rfl

/-- **Making the admin client**, where there is none. -/
theorem makeAdmin_accounts {t : Transport ν} (unheld : t.hasAdmin = false) :
    ∃ rs, Accounts n rs t (t.makeAdmin n o).2 := by
  unfold makeAdmin
  cases Connection.adminSettings o.loader o.connection o.properties with
  | error f => exact ⟨[], .refl t⟩
  | ok settings =>
  dsimp only
  cases hask : t.ask n (.makeAdmin settings) with
  | mk result t₁ =>
  obtain ⟨hasked, hanswer, -⟩ := ask_asked hask
  obtain ⟨hconsumer, hadmin⟩ := ask_handles hask
  cases result with
  | error f => exact ⟨_, .of_refused hask rfl⟩
  | ok u =>
    refine ⟨_, ⟨hasked.requests, hasked.network⟩, List.forall_mem_singleton.mpr rfl, ?_, ?_⟩
    · rw [Network.made_of_ok hanswer, show _ = t.hasConsumer from hconsumer]
      rfl
    · rw [Network.made_of_ok hanswer, unheld]
      rfl

theorem startHandles_spares (n : Network ν) (c : Connection) (t : Transport ν) :
    Spares n t (t.startHandles n c).2 := by
  have hconsumer : Spares n t (t.ask n .startConsumer).2 := .of_ask rfl t
  unfold startHandles
  generalize t.ask n .startConsumer = outcome at hconsumer ⊢
  obtain ⟨result, t₁⟩ := outcome
  cases result with
  | error f => exact hconsumer
  | ok u =>
    have hadmin := hconsumer.trans (.of_ask (r := .startAdmin) rfl t₁)
    dsimp only
    generalize t₁.ask n .startAdmin = outcome at hadmin ⊢
    obtain ⟨result, t₂⟩ := outcome
    cases result <;> exact hadmin

/-- **A start** holds what it made, wherever it breaks off. -/
theorem start_accounts {t : Transport ν} (noConsumer : t.hasConsumer = false) (noAdmin : t.hasAdmin = false) :
    ∃ rs, Accounts n rs t (t.start n o).2 := by
  obtain ⟨⟨rs, hconsumer⟩, hkept⟩ := makeConsumer_accounts (n := n) (o := o) noConsumer
  unfold start
  generalize t.makeConsumer n o = outcome at hconsumer hkept ⊢
  obtain ⟨result, t₁⟩ := outcome
  cases result with
  | error f => exact ⟨rs, hconsumer⟩
  | ok u =>
    obtain ⟨qs, hadmin⟩ := makeAdmin_accounts (n := n) (o := o) (hkept.trans noAdmin)
    dsimp only at hadmin ⊢
    generalize t₁.makeAdmin n o = outcome at hadmin ⊢
    obtain ⟨result, t₂⟩ := outcome
    cases result with
    | error f => exact ⟨_, hconsumer.trans hadmin⟩
    | ok u =>
      obtain ⟨ps, hstarted⟩ := (startHandles_spares n o.connection t₂).accounts
      exact ⟨_, (hconsumer.trans hadmin).trans hstarted⟩

/-! ## Stopping -/

/-- **Nothing is held and nothing is open.** -/
structure AtRest (t : Transport ν) : Prop where
  consumer : t.hasConsumer = false
  admin : t.hasAdmin = false
  streams : t.streams = []
  ended : t.ended = []

theorem idle_atRest (network : ν) : AtRest (idle network) := ⟨rfl, rfl, rfl, rfl⟩

/-- The releases that are due: one for each handle. -/
def dues (t : Transport ν) : List Request :=
  (if t.hasConsumer then [.stopConsumer] else []) ++ if t.hasAdmin then [.closeAdmin] else []

theorem askIf_asked (n : Network ν) (held : Bool) (r : Request) (t : Transport ν) :
    Asked n (if held then [r] else []) t (t.askIf held n r).2 := by
  cases held with
  | false => exact .refl t
  | true =>
    rw [askIf_of_held rfl]
    exact ⟨rfl, rfl⟩

theorem askIf_atRest {t : Transport ν} (rest : AtRest t) (n : Network ν) (held : Bool) (r : Request) :
    AtRest (t.askIf held n r).2 := by
  cases held with
  | false => exact rest
  | true =>
    rw [askIf_of_held rfl]
    exact ⟨rest.consumer, rest.admin, rest.streams, rest.ended⟩

/-- **A stop** asks for what is due, the second release also when the first one fails, and leaves nothing behind. -/
theorem stop_asked (n : Network ν) (t : Transport ν) : Asked n t.dues t (t.stop n).2 ∧ AtRest (t.stop n).2 := by
  unfold stop dues
  dsimp only
  -- Everything is let go of before anything is asked, so a refusal leaves nothing behind.
  have hbare : AtRest { t with hasConsumer := false, hasAdmin := false, streams := [], ended := [] } :=
    ⟨rfl, rfl, rfl, rfl⟩
  obtain ⟨hrequests, hnetwork⟩ := askIf_asked n t.hasConsumer .stopConsumer
    { t with hasConsumer := false, hasAdmin := false, streams := [], ended := [] }
  have hrest := askIf_atRest hbare n t.hasConsumer .stopConsumer
  generalize askIf t.hasConsumer n .stopConsumer _ = outcome at hrequests hnetwork hrest ⊢
  obtain ⟨first, bare⟩ := outcome
  exact ⟨.trans ⟨hrequests, hnetwork⟩ (askIf_asked n t.hasAdmin .closeAdmin bare),
    askIf_atRest hrest n t.hasAdmin .closeAdmin⟩

/-- **A stop of nothing** does nothing. -/
theorem AtRest.stop_eq {t : Transport ν} (rest : AtRest t) (n : Network ν) : t.stop n = (.ok (), t) := by
  obtain ⟨network, requests, hasConsumer, hasAdmin, streams, ended⟩ := t
  obtain ⟨rfl, rfl, rfl, rfl⟩ := rest
  rfl

/-- **Before a start** every call leaves the transport as it is. -/
theorem AtRest.invoke_eq {t : Transport ν} (rest : AtRest t) {call : ClientCall} (notStart : call ≠ .start) :
    (t.invoke n o call).2 = t := by
  match call with
  | .start => exact absurd rfl notStart
  | .stop => exact congrArg Prod.snd (rest.stop_eq n)
  | .fetch topic seconds => simp [invoke, withoutAnswer, fetch, rest.admin]
  | .stream (.openStream topic p start) =>
    simp [invoke, withoutAnswer, perform, withoutItems, openStream, rest.consumer]
  | .stream (.closeStream topic p) =>
    simp [invoke, withoutAnswer, perform, withoutItems, closeStream, isOpen, rest.streams]
  | .stream (.poll seconds) => simp [invoke, withoutAnswer, perform, poll, rest.streams]

theorem AtRest.invoked_eq {t : Transport ν} (rest : AtRest t) {calls : List ClientCall} (notStarted : .start ∉ calls) :
    invoked n o calls t = t := by
  induction calls with
  | nil => rfl
  | cons call others ih =>
    rw [List.mem_cons, not_or] at notStarted
    rw [invoked_cons, rest.invoke_eq (Ne.symm notStarted.1), ih notStarted.2]

/-- **Between two stops** the books balance: nothing is released, and what was made is held. -/
theorem AtRest.invoked_accounts {t : Transport ν} (rest : AtRest t) {calls : List ClientCall} (once : StartsOnce calls)
    (running : .stop ∉ calls) : ∃ rs, Accounts n rs t (invoked n o calls t) := by
  by_cases hstarted : .start ∈ calls
  · obtain ⟨before, after, rfl, hbefore, hafter⟩ := once.split running hstarted
    -- Up to the start nothing happens, and behind it the handles stay as the start has left them.
    rw [invoked_append, rest.invoked_eq hbefore, invoked_cons]
    obtain ⟨rs, hstart⟩ := start_accounts (n := n) (o := o) rest.consumer rest.admin
    have hnotStopped : .stop ∉ after := fun hmem => running (List.mem_append_right _ (List.mem_cons_of_mem _ hmem))
    obtain ⟨qs, hothers⟩ := (invoked_spares (n := n) (o := o) hafter hnotStopped (t.start n o).2).accounts
    exact ⟨rs ++ qs, hstart.trans hothers⟩
  · rw [rest.invoked_eq hstarted]
    exact ⟨[], .refl t⟩

/-! ## The law -/

/-- There is one release for each handle, and one handle at most. -/
theorem releases_eq {held : Bool} {made : List Request} (h : held.toNat = made.length) (r : Request) :
    (if held then [r] else []) = made.map fun _ => r := by
  rw [List.map_const', ← h]
  cases held <;> rfl

/-- **What is due** is a release for each handle that was made since nothing was held, and of each kind there is one at
    most. -/
theorem Accounts.dues_eq {rs : List Request} {t t' : Transport ν} (h : Accounts n rs t t') (rest : AtRest t) :
    (n.made Request.makesConsumer rs t.network).length ≤ 1 ∧ (n.made Request.makesAdmin rs t.network).length ≤ 1
      ∧ t'.dues = (n.made Request.makesConsumer rs t.network).map (fun _ => .stopConsumer)
        ++ (n.made Request.makesAdmin rs t.network).map fun _ => .closeAdmin := by
  have hconsumers := h.consumers
  have hadmins := h.admins
  rw [rest.consumer, Bool.toNat_false, Nat.zero_add] at hconsumers
  rw [rest.admin, Bool.toNat_false, Nat.zero_add] at hadmins
  refine ⟨hconsumers ▸ Bool.toNat_le _, hadmins ▸ Bool.toNat_le _, ?_⟩
  unfold dues
  rw [releases_eq hconsumers, releases_eq hadmins]

/-- After calls that end with a stop, or before any call, nothing is held. -/
theorem invoked_atRest {calls : List ClientCall} (last : calls = [] ∨ ∃ earlier, calls = earlier ++ [.stop])
    (network : ν) : AtRest (invoked n o calls (idle network)) := by
  rcases last with rfl | ⟨earlier, rfl⟩
  · exact idle_atRest network
  · rw [invoked_append]
    exact (stop_asked n _).2

/-- **Both handles are released, once each.** Let there be calls with a stop between any two starts, over a network
    that may refuse any request. Between one stop and the next, or before the first one, at most one consumer and one
    admin client are made, and nothing is released. The next stop asks for one release for each of them, whether the
    releases are refused or not, and for nothing else; no stream is open any more. Until the next start every call
    leaves everything as it is, and a stop succeeds. -/
theorem stop_releases_both (n : Network ν) (o : TransportOptions) (network : ν) {calls : List ClientCall}
    (once : StartsOnce calls) :
    ∀ before since after, calls = before ++ since ++ .stop :: after →
      (before = [] ∨ ∃ earlier, before = earlier ++ [.stop]) → .stop ∉ since →
      let t₁ := invoked n o before (idle network)
      let t₂ := invoked n o since t₁
      let t₃ := (t₂.stop n).2
      ∃ asked, Asked n asked t₁ t₂ ∧ (∀ r ∈ asked, r.releasesHandle = false)
        ∧ (n.made Request.makesConsumer asked t₁.network).length ≤ 1
        ∧ (n.made Request.makesAdmin asked t₁.network).length ≤ 1
        ∧ Asked n ((n.made Request.makesConsumer asked t₁.network).map (fun _ => .stopConsumer)
          ++ (n.made Request.makesAdmin asked t₁.network).map fun _ => .closeAdmin) t₂ t₃
        ∧ t₃.streams = []
        ∧ ∀ later, .start ∉ later → invoked n o later t₃ = t₃ ∧ (invoked n o later t₃).stop n = (.ok (), t₃) := by
  rintro before since after rfl last running t₁ t₂ t₃
  have hrest : AtRest t₁ := invoked_atRest last network
  obtain ⟨asked, haccounts⟩ := hrest.invoked_accounts (n := n) (o := o) once.of_append running
  obtain ⟨hconsumers, hadmins, hdues⟩ := haccounts.dues_eq hrest
  obtain ⟨hstopped, hempty⟩ : Asked n t₂.dues t₂ t₃ ∧ AtRest t₃ := stop_asked n t₂
  rw [hdues] at hstopped
  refine ⟨asked, haccounts.asked, haccounts.unreleased, hconsumers, hadmins, hstopped, hempty.streams, ?_⟩
  intro later hlater
  rw [hempty.invoked_eq hlater]
  exact ⟨rfl, hempty.stop_eq n⟩

/-- A network that lets the client be made, but not be connected, and that fails when the consumer is stopped: the
    admin client is closed all the same, and another stop asks for nothing. -/
theorem stop_releases_both_of_failing :
    let down : Failure := .foreign ⟨"KafkaConnectionError", .broker, "no broker", "", none⟩
    let network : NetworkTable := { NetworkTable.empty with
      failures := [("admin.start", down), ("consumer.stop", down)] }
    let n := NetworkTable.network
    let o : TransportOptions := ⟨.usual, [], fun _ => .ok ()⟩
    let calls : List ClientCall := [.start, .stream (.openStream "events" 0 (.offset .earliest)), .stop, .stop]
    let t := invoked n o (calls.take 2) (idle network)
    StartsOnce calls ∧ (t.stop n).1.toOption = none
      ∧ (∃ asked, Asked n asked (idle network) t
        ∧ Asked n ((n.made Request.makesConsumer asked network).map (fun _ => .stopConsumer)
          ++ (n.made Request.makesAdmin asked network).map fun _ => .closeAdmin) t (t.stop n).2)
      ∧ (invoked n o calls (idle network)).requests.reverse.map Request.name
        = ["consumer", "admin", "consumer.start", "admin.start", "consumer.assign", "consumer.seek_to_beginning",
          "consumer.stop", "admin.close"] := by
  intro down network n o calls t
  have honce : StartsOnce calls := .start_cons (by simp)
  obtain ⟨asked, hasked, -, -, -, hstopped, -⟩ :=
    stop_releases_both n o network honce [] (calls.take 2) [.stop] rfl (.inl rfl) (by simp [calls])
  exact ⟨honce, by decide +kernel, ⟨asked, hasked, hstopped⟩, by decide +kernel⟩

end Transport

end TopicReader
