import TopicReader.Proofs.Transport.Consumer

/-!
# `Proofs.Transport.Placing` — where the streams of a transport start

An assignment drops every position, so whenever a transport opens a stream it assigns all streams and places all of
them again. What counts in the end is the last assignment: `Starts` names it together with the requests that placed
a stream after it, and `Placed` is the invariant that opening one stream after the other keeps. Here is also what a
transport asks before and after that; none of it reads.

## Contents
- **Asking.** `Asked`: the requests between two states, in order. `Quietly`: none of them reads.
- **Handles and metadata.** `start_prepares`, `fetch_prepares`, `closeStream_quietly`, `stop_quietly`.
- **Placing.** `place_seeks`, `placeEach_seeks`: each stream once, by its start; `place_leaves`, `placeEach_leaves`:
  whatever comes of it, the transport stays as it was.
- **Opening.** `Opens`, `openStream_opens` and `openStream_leaves`: an open that succeeds and one that fails;
  `Starts`, `Placed`, `Placed.openStream`.
-/

namespace TopicReader

variable {ν : Type} {n : Network ν}

namespace Transport

/-! ## Asking -/

/-- **What a transport asked** between two states, in order. -/
structure Asked (n : Network ν) (rs : List Request) (t t' : Transport ν) : Prop where
  requests : t'.requests = rs.reverse ++ t.requests
  network : t'.network = n.after rs t.network

theorem Asked.refl (t : Transport ν) : Asked n [] t t := ⟨rfl, rfl⟩

theorem Asked.trans {rs qs : List Request} {t₁ t₂ t₃ : Transport ν} (h : Asked n rs t₁ t₂)
    (g : Asked n qs t₂ t₃) : Asked n (rs ++ qs) t₁ t₃ where
  requests := by rw [g.requests, h.requests]; simp
  network := by rw [g.network, h.network, Network.after_append]

/-- What is known once an answer has come. -/
theorem ask_asked {r : Request} {t t' : Transport ν} {result : Except Failure r.Answer}
    (h : t.ask n r = (result, t')) :
    Asked n [r] t t' ∧ (n.answer r t.network).1 = result ∧ t'.streams = t.streams := by
  have hasked : Asked n [r] t (t.ask n r).2 := ⟨rfl, rfl⟩
  have hstreams : (t.ask n r).2.streams = t.streams := rfl
  have hresult : (t.ask n r).1 = (n.answer r t.network).1 := rfl
  rw [h] at hasked hstreams hresult
  exact ⟨hasked, hresult.symm, hstreams⟩

/-- Asking leaves the streams, the ends that were told and the consumer alone. -/
theorem ask_keeps {r : Request} {t t' : Transport ν} {result : Except Failure r.Answer}
    (h : t.ask n r = (result, t')) :
    t'.streams = t.streams ∧ t'.ended = t.ended ∧ t'.hasConsumer = t.hasConsumer := by
  have hnext : (t.ask n r).2 = t' := congrArg Prod.snd h
  rw [← hnext]
  exact ⟨rfl, rfl, rfl⟩

/-- Something may have been asked, but nothing that reads. -/
def Quietly (n : Network ν) (t t' : Transport ν) : Prop := ∃ rs, Asked n rs t t' ∧ ∀ r ∈ rs, r.reads = false

namespace Quietly

theorem refl (t : Transport ν) : Quietly n t t := ⟨[], .refl t, List.forall_mem_nil _⟩

theorem trans {t₁ t₂ t₃ : Transport ν} (h : Quietly n t₁ t₂) (g : Quietly n t₂ t₃) : Quietly n t₁ t₃ := by
  obtain ⟨rs, hasked, hquiet⟩ := h
  obtain ⟨qs, gasked, gquiet⟩ := g
  exact ⟨rs ++ qs, hasked.trans gasked, List.forall_mem_append.mpr ⟨hquiet, gquiet⟩⟩

theorem of_ask {r : Request} {t t' : Transport ν} {result : Except Failure r.Answer} (quiet : r.reads = false)
    (h : t.ask n r = (result, t')) : Quietly n t t' :=
  ⟨[r], (ask_asked h).1, List.forall_mem_singleton.mpr quiet⟩

end Quietly

/-! ## Handles and metadata -/

/-- A step before the first stream: it reads nothing, and the open streams stay the same. -/
structure Prepares (n : Network ν) (t t' : Transport ν) : Prop where
  quietly : Quietly n t t'
  streams : t'.streams = t.streams

namespace Prepares

theorem refl (t : Transport ν) : Prepares n t t := ⟨.refl t, rfl⟩

theorem trans {t₁ t₂ t₃ : Transport ν} (h : Prepares n t₁ t₂) (g : Prepares n t₂ t₃) : Prepares n t₁ t₃ :=
  ⟨h.quietly.trans g.quietly, g.streams.trans h.streams⟩

theorem of_ask {r : Request} {t t' : Transport ν} {result : Except Failure r.Answer} (quiet : r.reads = false)
    (h : t.ask n r = (result, t')) : Prepares n t t' :=
  ⟨.of_ask quiet h, (ask_asked h).2.2⟩

end Prepares

theorem makeConsumer_prepares (n : Network ν) (o : TransportOptions) (t : Transport ν) :
    Prepares n t (t.makeConsumer n o).2 := by
  unfold makeConsumer
  cases Connection.consumerSettings o.loader o.connection o.properties with
  | error f => exact .refl t
  | ok settings =>
    dsimp only
    cases hask : t.ask n (.makeConsumer settings) with
    | mk result t' =>
      have hone : Prepares n t t' := .of_ask rfl hask
      cases result with
      | error f => exact hone
      | ok u =>
        obtain ⟨⟨rs, hasked, hquiet⟩, hstreams⟩ := hone
        exact ⟨⟨rs, ⟨hasked.requests, hasked.network⟩, hquiet⟩, hstreams⟩

theorem makeAdmin_prepares (n : Network ν) (o : TransportOptions) (t : Transport ν) :
    Prepares n t (t.makeAdmin n o).2 := by
  unfold makeAdmin
  cases Connection.adminSettings o.loader o.connection o.properties with
  | error f => exact .refl t
  | ok settings =>
    dsimp only
    cases hask : t.ask n (.makeAdmin settings) with
    | mk result t' =>
      have hone : Prepares n t t' := .of_ask rfl hask
      cases result with
      | error f => exact hone
      | ok u =>
        obtain ⟨⟨rs, hasked, hquiet⟩, hstreams⟩ := hone
        exact ⟨⟨rs, ⟨hasked.requests, hasked.network⟩, hquiet⟩, hstreams⟩

theorem startHandles_prepares (n : Network ν) (c : Connection) (t : Transport ν) :
    Prepares n t (t.startHandles n c).2 := by
  unfold startHandles
  cases hask : t.ask n .startConsumer with
  | mk result t₁ =>
    have hone : Prepares n t t₁ := .of_ask rfl hask
    cases result with
    | error f => exact hone
    | ok u =>
      dsimp only
      cases hagain : t₁.ask n .startAdmin with
      | mk result t₂ =>
        have htwo : Prepares n t t₂ := hone.trans (.of_ask rfl hagain)
        cases result <;> exact htwo

theorem start_prepares (n : Network ν) (o : TransportOptions) (t : Transport ν) :
    Prepares n t (t.start n o).2 := by
  have hconsumer := makeConsumer_prepares n o t
  unfold start
  generalize t.makeConsumer n o = outcome at hconsumer ⊢
  obtain ⟨result, t₁⟩ := outcome
  cases result with
  | error f => exact hconsumer
  | ok u =>
    have hadmin := hconsumer.trans (makeAdmin_prepares n o t₁)
    dsimp only
    generalize t₁.makeAdmin n o = outcome at hadmin ⊢
    obtain ⟨result, t₂⟩ := outcome
    cases result with
    | error f => exact hadmin
    | ok u => exact hadmin.trans (startHandles_prepares n o.connection t₂)

theorem fetch_prepares (n : Network ν) (topic : String) (seconds : Double) (t : Transport ν) :
    Prepares n t (t.fetch n topic seconds).2 := by
  unfold fetch
  split
  · exact .refl t
  split
  · exact .refl t
  cases hask : t.ask n (.describe topic) with
  | mk result t' =>
    have hone : Prepares n t t' := .of_ask rfl hask
    match result with
    | .error f => exact hone
    | .ok none => exact hone
    | .ok (some answer) => exact hone

theorem askIf_quietly (held : Bool) {r : Request} (quiet : r.reads = false) (t : Transport ν) :
    Quietly n t (t.askIf held n r).2 := by
  unfold askIf
  cases held with
  | false => exact .refl t
  | true =>
    rw [if_pos rfl]
    cases hask : t.ask n r with
    | mk result t' =>
      have hone : Quietly n t t' := .of_ask quiet hask
      cases result <;> exact hone

theorem closeStream_quietly (n : Network ν) (topic : String) (p : Int) (t : Transport ν) :
    Quietly n t (t.closeStream n topic p).2 := by
  unfold closeStream
  dsimp only
  split
  · obtain ⟨rs, hasked, hquiet⟩ := askIf_quietly (n := n) t.hasConsumer (r := .pause ⟨topic, p⟩) rfl
      { t with
        streams := t.streams.filter (·.1 ≠ ⟨topic, p⟩)
        ended := t.ended.filter (· ≠ ⟨topic, p⟩) }
    exact ⟨rs, ⟨hasked.requests, hasked.network⟩, hquiet⟩
  · exact .refl t

theorem stop_quietly (n : Network ν) (t : Transport ν) : Quietly n t (t.stop n).2 := by
  unfold stop
  dsimp only
  obtain ⟨rs, hasked, hquiet⟩ := askIf_quietly (n := n) t.hasConsumer (r := .stopConsumer) rfl
    { t with hasConsumer := false, hasAdmin := false, streams := [], ended := [] }
  exact .trans ⟨rs, ⟨hasked.requests, hasked.network⟩, hquiet⟩ (askIf_quietly t.hasAdmin rfl _)

/-! ## Placing -/

/-- A step that asks nothing that reads, and leaves the streams, the ends that were told and the consumer alone. -/
structure Leaves (n : Network ν) (t t' : Transport ν) : Prop where
  quietly : Quietly n t t'
  streams : t'.streams = t.streams
  ended : t'.ended = t.ended
  hasConsumer : t'.hasConsumer = t.hasConsumer

namespace Leaves

theorem refl (t : Transport ν) : Leaves n t t := ⟨.refl t, rfl, rfl, rfl⟩

theorem trans {t₁ t₂ t₃ : Transport ν} (h : Leaves n t₁ t₂) (g : Leaves n t₂ t₃) : Leaves n t₁ t₃ :=
  ⟨h.quietly.trans g.quietly, g.streams.trans h.streams, g.ended.trans h.ended, g.hasConsumer.trans h.hasConsumer⟩

theorem of_ask {r : Request} (quiet : r.reads = false) (t : Transport ν) : Leaves n t (t.ask n r).2 :=
  ⟨.of_ask quiet rfl, rfl, rfl, rfl⟩

end Leaves

theorem seekTail_leaves (n : Network ν) (tp : TopicPartition) (count : Nat) (t : Transport ν) :
    Leaves n t (t.seekTail n tp count).2 := by
  have hfirst : Leaves n t (t.ask n (.beginningOffset tp)).2 := .of_ask rfl t
  unfold seekTail
  generalize t.ask n (.beginningOffset tp) = outcome at hfirst ⊢
  obtain ⟨result, t₁⟩ := outcome
  cases result with
  | error f => exact hfirst
  | ok first =>
    have hlast : Leaves n t₁ (t₁.ask n (.endOffset tp)).2 := .of_ask rfl t₁
    dsimp only
    generalize t₁.ask n (.endOffset tp) = outcome at hlast ⊢
    obtain ⟨result, t₂⟩ := outcome
    cases result with
    | error f => exact hfirst.trans hlast
    | ok last => exact (hfirst.trans hlast).trans (.of_ask rfl t₂)

/-- **Placing a stream** leaves the transport as it was, whatever comes of it. -/
theorem place_leaves (n : Network ν) (tp : TopicPartition) (start : StartPoint) (t : Transport ν) :
    Leaves n t (t.place n tp start).2 := by
  match start with
  | .alien v => exact .refl t
  | .offset .earliest => exact .of_ask rfl t
  | .offset .latest => exact .of_ask rfl t
  | .offset .stored => exact .of_ask rfl t
  | .offset (.absolute k) => exact .of_ask rfl t
  | .offset (.tail count) => exact seekTail_leaves n tp count t

theorem placeEach_leaves (n : Network ν) (streams : List (TopicPartition × StartPoint)) (t : Transport ν) :
    Leaves n t (t.placeEach n streams).2 := by
  induction streams generalizing t with
  | nil => exact .refl t
  | cons s others ih =>
    obtain ⟨tp, start⟩ := s
    have hone := place_leaves n tp start t
    rw [placeEach]
    generalize t.place n tp start = outcome at hone ⊢
    obtain ⟨result, t₁⟩ := outcome
    cases result with
    | error f => exact hone
    | ok u => exact hone.trans (ih t₁)

/-- **One stream** is placed by its start. -/
theorem place_seeks {tp : TopicPartition} {start : StartPoint} {t t' : Transport ν}
    (h : t.place n tp start = (.ok (), t')) : ∃ own, Asked n own t t' ∧ Seeks n tp start own t.network := by
  match start with
  | .alien v => cases h
  | .offset .earliest =>
    obtain ⟨hasked, hok, -⟩ := ask_asked h
    exact ⟨_, hasked, .earliest hok⟩
  | .offset .latest =>
    obtain ⟨hasked, hok, -⟩ := ask_asked h
    exact ⟨_, hasked, .latest hok⟩
  | .offset .stored =>
    obtain ⟨hasked, hok, -⟩ := ask_asked h
    exact ⟨_, hasked, .stored hok⟩
  | .offset (.absolute k) =>
    obtain ⟨hasked, hok, -⟩ := ask_asked h
    exact ⟨_, hasked, .absolute hok⟩
  | .offset (.tail count) =>
    change t.seekTail n tp count = _ at h
    unfold seekTail at h
    cases hfirst : t.ask n (.beginningOffset tp) with
    | mk result t₁ =>
    rw [hfirst] at h
    obtain ⟨hasked₁, hok₁, -⟩ := ask_asked hfirst
    cases result with
    | error f => cases h
    | ok first =>
    dsimp only at h
    cases hlast : t₁.ask n (.endOffset tp) with
    | mk result t₂ =>
    rw [hlast] at h
    obtain ⟨hasked₂, hok₂, -⟩ := ask_asked hlast
    cases result with
    | error f => cases h
    | ok last =>
    obtain ⟨hasked₃, hok₃, -⟩ := ask_asked h
    have htwo := hasked₁.trans hasked₂
    refine ⟨_, htwo.trans hasked₃, .tail hok₁ ?_ ?_⟩
    · rw [← hasked₁.network]; exact hok₂
    · exact htwo.network ▸ hok₃

/-- **A stream is placed once** among some requests: by those that its start leads to, and none of the others moves
    its position. -/
def SeeksAmong (n : Network ν) (tp : TopicPartition) (start : StartPoint) (rs : List Request) (s : ν) : Prop :=
  ∃ mid own rest, rs = mid ++ own ++ rest ∧ Seeks n tp start own (n.after mid s)
    ∧ ∀ r ∈ mid ++ rest, r.moves tp = false

/-- What was placed stands where its directive has put it, since the other requests do not move it. -/
theorem SeeksAmong.places (C : LogConsumer n) {tp : TopicPartition} {o : Offset} {rs : List Request} {s : ν}
    (h : SeeksAmong n tp (.offset o) rs s) :
    ∃ mid own rest, rs = mid ++ own ++ rest ∧ Places C tp o own (n.after mid s) (C.position (n.after rs s) tp) := by
  obtain ⟨mid, own, rest, rfl, hseeks, hothers⟩ := h
  obtain ⟨p, hplaces⟩ := hseeks.places C
  have hstays : C.position (n.after (mid ++ own ++ rest) s) tp = p := by
    rw [Network.after_append, C.position_after (fun r hr => hothers r (List.mem_append_right _ hr)),
      Network.after_append]
    exact hplaces.position
  rw [← hstays] at hplaces
  exact ⟨mid, own, rest, rfl, hplaces⟩

/-- **All streams** are placed by their starts, each once. -/
theorem placeEach_seeks {streams : List (TopicPartition × StartPoint)} (nodup : (streams.map (·.1)).Nodup)
    {t t' : Transport ν} (h : t.placeEach n streams = (.ok (), t')) :
    ∃ rs, Asked n rs t t'
      ∧ (∀ r ∈ rs, r.assigns = false ∧ r.reads = false ∧ ∀ q, q ∉ streams.map (·.1) → r.moves q = false)
      ∧ ∀ tp start, (tp, start) ∈ streams → SeeksAmong n tp start rs t.network := by
  induction streams generalizing t with
  | nil =>
    cases h
    exact ⟨[], .refl _, List.forall_mem_nil _, fun _ _ hmem => absurd hmem List.not_mem_nil⟩
  | cons s others ih =>
    obtain ⟨q, first⟩ := s
    obtain ⟨hnew, hnodup⟩ := List.nodup_cons.mp nodup
    cases hplace : t.place n q first with
    | mk result t₁ =>
    rw [placeEach, hplace] at h
    cases result with
    | error f => cases h
    | ok u =>
    obtain ⟨own, hasked, hseeks⟩ := place_seeks hplace
    obtain ⟨rs, hrest, hrs, hall⟩ := ih hnodup h
    refine ⟨own ++ rs, hasked.trans hrest, List.forall_mem_append.mpr ⟨fun r hr => ?_, fun r hr => ?_⟩, ?_⟩
    · obtain ⟨hassigns, hreads, hmoves⟩ := hseeks.requests r hr
      exact ⟨hassigns, hreads, fun x hx => hmoves x fun heq => hx (heq ▸ List.mem_cons_self)⟩
    · obtain ⟨hassigns, hreads, hmoves⟩ := hrs r hr
      exact ⟨hassigns, hreads, fun x hx => hmoves x fun hmem => hx (List.mem_cons_of_mem _ hmem)⟩
    · intro tp start hmem
      rcases List.mem_cons.mp hmem with heq | hmem
      · -- Placing the other streams leaves the first one where its start has put it.
        cases heq
        exact ⟨[], own, rs, rfl, hseeks, fun r hr => (hrs r hr).2.2 q hnew⟩
      · obtain ⟨mid, own', rest, rfl, hplaced, hothers⟩ := hall tp start hmem
        have hkey : tp ∈ others.map (·.1) := List.mem_map_of_mem hmem
        have hne : tp ≠ q := fun heq => hnew (heq ▸ hkey)
        refine ⟨own ++ mid, own', rest, by simp, ?_, ?_⟩
        · rw [Network.after_append, ← hasked.network]; exact hplaced
        · intro r hr
          rw [List.append_assoc] at hr
          rcases List.mem_append.mp hr with hown | hother
          · exact (hseeks.requests r hown).2.2 tp hne
          · exact hothers r hother

/-! ## Opening -/

theorem mem_withStart {streams : List (TopicPartition × StartPoint)} {tp : TopicPartition} {start : StartPoint}
    {s : TopicPartition × StartPoint} (h : s ∈ withStart streams tp start) : s = (tp, start) ∨ s ∈ streams := by
  induction streams with
  | nil => exact .inl (List.mem_singleton.mp h)
  | cons x rest ih =>
    rw [withStart] at h
    split at h
    · exact (List.mem_cons.mp h).imp_right (List.mem_cons_of_mem _)
    · rcases List.mem_cons.mp h with heq | hmem
      · exact .inr (heq ▸ List.mem_cons_self)
      · exact (ih hmem).imp_right (List.mem_cons_of_mem _)

/-- Setting where a stream starts opens it, unless it is open, and keeps all others. -/
theorem mem_keys_withStart (streams : List (TopicPartition × StartPoint)) (tp q : TopicPartition)
    (start : StartPoint) :
    q ∈ (withStart streams tp start).map (·.1) ↔ q = tp ∨ q ∈ streams.map (·.1) := by
  induction streams with
  | nil => simp [withStart]
  | cons x rest ih =>
    rw [withStart]
    by_cases hx : x.1 = tp
    · rw [if_pos hx]; simp [hx]
    · rw [if_neg hx, List.map_cons, List.map_cons, List.mem_cons, List.mem_cons, ih]; tauto

theorem nodup_keys_withStart {streams : List (TopicPartition × StartPoint)} (nodup : (streams.map (·.1)).Nodup)
    (tp : TopicPartition) (start : StartPoint) : ((withStart streams tp start).map (·.1)).Nodup := by
  induction streams with
  | nil => simp [withStart]
  | cons x rest ih =>
    obtain ⟨hnew, hnodup⟩ := List.nodup_cons.mp nodup
    rw [withStart]
    by_cases hx : x.1 = tp
    · rw [if_pos hx, List.map_cons]
      exact List.nodup_cons.mpr ⟨hx ▸ hnew, hnodup⟩
    · rw [if_neg hx, List.map_cons]
      refine List.nodup_cons.mpr ⟨fun hmem => ?_, ih hnodup⟩
      rcases (mem_keys_withStart rest tp x.1 start).mp hmem with heq | hold
      · exact hx heq
      · exact hnew hold

/-- Setting where a stream starts changes nothing of the others. -/
theorem mem_withStart_iff {streams : List (TopicPartition × StartPoint)} (nodup : (streams.map (·.1)).Nodup)
    (tp q : TopicPartition) (start point : StartPoint) :
    (q, point) ∈ withStart streams tp start ↔ if q = tp then point = start else (q, point) ∈ streams := by
  induction streams with
  | nil =>
    rw [withStart, List.mem_singleton, Prod.mk.injEq]
    by_cases hq : q = tp <;> simp [hq]
  | cons x rest ih =>
    obtain ⟨hnew, hnodup⟩ := List.nodup_cons.mp nodup
    rw [withStart]
    by_cases hx : x.1 = tp
    · have hold : (q, point) ∈ rest → q ≠ tp := by
        intro hmem heq
        have hkey : q ∈ rest.map (·.1) := List.mem_map_of_mem hmem
        rw [heq, ← hx] at hkey
        exact hnew hkey
      rw [if_pos hx, List.mem_cons, List.mem_cons, Prod.mk.injEq]
      by_cases hq : q = tp
      · rw [if_pos hq]
        exact ⟨fun h => h.elim (·.2) fun hmem => absurd hq (hold hmem), fun h => .inl ⟨hq, h⟩⟩
      · rw [if_neg hq]
        have hne : (q, point) ≠ x := fun heq => hq (by rw [← hx, ← heq])
        exact ⟨fun h => .inr (h.resolve_left fun heq => hq heq.1), fun h => .inr (h.resolve_left hne)⟩
    · rw [if_neg hx, List.mem_cons, ih hnodup, List.mem_cons]
      by_cases hq : q = tp
      · have hne : (q, point) ≠ x := fun heq => hx (by rw [← heq]; exact hq)
        rw [if_pos hq, if_pos hq]
        exact ⟨fun h => h.resolve_left hne, .inr⟩
      · rw [if_neg hq, if_neg hq]

/-- **A stream was opened** and all streams were placed again: an assignment names each open stream once, and what is
    asked after it places each of them once. The end of the new stream counts as not told. -/
structure Opens (n : Network ν) (tp : TopicPartition) (start : StartPoint) (ps : List Request)
    (t t' : Transport ν) : Prop where
  asked : Asked n (.assign (t'.streams.map (·.1)) :: ps) t t'
  streams : t'.streams = withStart t.streams tp start
  nodup : (t'.streams.map (·.1)).Nodup
  ended : t'.ended = t.ended.filter (· ≠ tp)
  held : t'.hasConsumer = true
  others : ∀ r ∈ ps, r.assigns = false ∧ r.reads = false
  placed : ∀ q point, (q, point) ∈ t'.streams →
    SeeksAmong n q point ps (n.answer (.assign (t'.streams.map (·.1))) t.network).2

/-- **An open that succeeds.** -/
theorem openStream_opens {topic : String} {p : Int} {start : StartPoint} {t t' : Transport ν}
    (nodup : (t.streams.map (·.1)).Nodup) (ok : t.openStream n topic p start = (.ok (), t')) :
    ∃ ps, Opens n ⟨topic, p⟩ start ps t t' := by
  have hnodup := nodup_keys_withStart nodup ⟨topic, p⟩ start
  unfold Transport.openStream at ok
  dsimp only at ok
  generalize hstreams : withStart t.streams ⟨topic, p⟩ start = streams at ok hnodup
  split at ok
  · cases ok
  rename_i hheld
  cases hassign : t.ask n (.assign (streams.map (·.1))) with
  | mk result t₁ =>
  rw [hassign] at ok
  cases result with
  | error f => cases ok
  | ok u =>
  dsimp only at ok
  have hleaves := placeEach_leaves n streams t₁
  cases hplace : t₁.placeEach n streams with
  | mk result t₂ =>
  rw [hplace] at ok hleaves
  cases result with
  | error f => cases ok
  | ok u =>
  cases ok
  obtain ⟨hone, -, -⟩ := ask_asked hassign
  have hkeeps : Leaves n t t₁ := by
    have hask : Leaves n t (t.ask n (.assign (streams.map (·.1)))).2 := .of_ask rfl t
    rw [hassign] at hask
    exact hask
  obtain ⟨ps, hrest, hps, hall⟩ := placeEach_seeks hnodup hplace
  have hboth := hone.trans hrest
  refine ⟨ps, ⟨hboth.requests, hboth.network⟩, hstreams.symm, hnodup, ?_, ?_, ?_, ?_⟩
  · show List.filter _ t₂.ended = _
    rw [hleaves.ended, hkeeps.ended]
  · show t₂.hasConsumer = true
    rw [hleaves.hasConsumer, hkeeps.hasConsumer]
    simpa using hheld
  · intro r hr
    exact ⟨(hps r hr).1, (hps r hr).2.1⟩
  · intro q point hmem
    have hplaced := hall q point hmem
    rw [hone.network] at hplaced
    exact hplaced

/-- **An open that fails** leaves the transport as it was. -/
theorem openStream_leaves {topic : String} {p : Int} {start : StartPoint} {t t' : Transport ν} {f : Failure}
    (failed : t.openStream n topic p start = (.error f, t')) : Leaves n t t' := by
  unfold Transport.openStream at failed
  dsimp only at failed
  split at failed
  · cases failed
    exact .refl t
  have hassign : Leaves n t (t.ask n (.assign ((withStart t.streams ⟨topic, p⟩ start).map (·.1)))).2 := .of_ask rfl t
  generalize t.ask n (.assign ((withStart t.streams ⟨topic, p⟩ start).map (·.1))) = outcome at failed hassign
  obtain ⟨result, t₁⟩ := outcome
  cases result with
  | error g =>
    cases failed
    exact hassign
  | ok u =>
    dsimp only at failed
    have hplace := placeEach_leaves n (withStart t.streams ⟨topic, p⟩ start) t₁
    generalize t₁.placeEach n (withStart t.streams ⟨topic, p⟩ start) = outcome at failed hplace
    obtain ⟨result, t₂⟩ := outcome
    cases result with
    | error g =>
      cases failed
      exact hassign.trans hplace
    | ok u => cases failed

end Transport

/-- **Where a stream starts**: at the position that its directive set after the last assignment, which names the
    partition. -/
def Starts (C : LogConsumer n) (tp : TopicPartition) (o : Offset) (rs : List Request) (s : ν) (p : Int) : Prop :=
  ∃ before tps mid own rest, rs = before ++ .assign tps :: (mid ++ own ++ rest) ∧ tp ∈ tps
    ∧ (∀ r ∈ mid ++ own ++ rest, r.assigns = false)
    ∧ Places C tp o own (n.after (before ++ .assign tps :: mid) s) p

namespace Transport

/-- **The streams of some partitions of a topic are open**, all with the same directive, and each stands where it
    starts. Nothing was read so far. -/
structure Placed (C : LogConsumer n) (topic : String) (o : Offset) (opened : List Int) (rs : List Request)
    (t₀ t : Transport ν) : Prop where
  asked : Asked n rs t₀ t
  quiet : ∀ r ∈ rs, r.reads = false
  same : ∀ s ∈ t.streams, s.2 = .offset o
  nodup : (t.streams.map (·.1)).Nodup
  streams : ∀ tp, tp ∈ t.streams.map (·.1) ↔ tp.topic = topic ∧ tp.partition ∈ opened
  starts : ∀ tp ∈ t.streams.map (·.1), Starts C tp o rs t₀.network (C.position t.network tp)

/-- Before the first stream is opened. -/
theorem Placed.of_prepares (C : LogConsumer n) (topic : String) (o : Offset) {t₀ t : Transport ν}
    (none : t₀.streams = []) (h : Prepares n t₀ t) : ∃ rs, Placed C topic o [] rs t₀ t := by
  obtain ⟨⟨rs, hasked, hquiet⟩, hstreams⟩ := h
  have hnil : t.streams = [] := hstreams.trans none
  refine ⟨rs, hasked, hquiet, ?_, ?_, ?_, ?_⟩
  · rw [hnil]; exact List.forall_mem_nil _
  · rw [hnil]; exact List.nodup_nil
  · rw [hnil]; simp
  · rw [hnil]; exact List.forall_mem_nil _

/-- **Opening one more stream** places all of them again. -/
theorem Placed.openStream {C : LogConsumer n} {topic : String} {o : Offset} {opened : List Int} {rs : List Request}
    {t₀ t t' : Transport ν} (h : Placed C topic o opened rs t₀ t) {p : Int}
    (ok : t.openStream n topic p (.offset o) = (.ok (), t')) :
    ∃ qs, Placed C topic o (opened ++ [p]) (rs ++ qs) t₀ t' := by
  obtain ⟨ps, hopened⟩ := openStream_opens h.nodup ok
  have hsame : ∀ s ∈ t'.streams, s.2 = .offset o := by
    intro s hs
    rw [hopened.streams] at hs
    rcases mem_withStart hs with rfl | hold
    · rfl
    · exact h.same s hold
  -- The assignment drops every position; where the streams stand is told by what placed them after it.
  refine ⟨.assign (t'.streams.map (·.1)) :: ps, h.asked.trans hopened.asked, ?_, hsame, hopened.nodup, ?_, ?_⟩
  · exact List.forall_mem_append.mpr
      ⟨h.quiet, List.forall_mem_cons.mpr ⟨rfl, fun r hr => (hopened.others r hr).2⟩⟩
  · intro tp
    rw [hopened.streams, mem_keys_withStart, h.streams, List.mem_append, List.mem_singleton]
    constructor
    · rintro (rfl | ⟨htopic, hmem⟩)
      · exact ⟨rfl, .inr rfl⟩
      · exact ⟨htopic, .inl hmem⟩
    · rintro ⟨htopic, hmem | rfl⟩
      · exact .inr ⟨htopic, hmem⟩
      · exact .inl (by rw [← htopic])
  · intro tp htp
    obtain ⟨⟨q, start⟩, hs, rfl⟩ := List.mem_map.mp htp
    obtain rfl : start = .offset o := hsame (q, start) hs
    obtain ⟨mid, own, rest, rfl, hplaces⟩ := (hopened.placed q (.offset o) hs).places C
    refine ⟨rs, _, mid, own, rest, rfl, htp, fun r hr => (hopened.others r hr).1, ?_⟩
    have hbefore : n.after (rs ++ .assign (t'.streams.map (·.1)) :: mid) t₀.network
        = n.after mid (n.answer (.assign (t'.streams.map (·.1))) t.network).2 := by
      rw [h.asked.network, Network.after_append]
      rfl
    rw [hbefore, hopened.asked.network]
    exact hplaces

end Transport

end TopicReader
