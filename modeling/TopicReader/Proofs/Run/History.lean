import Mathlib
import TopicReader.Run.Consume

/-!
# `Proofs.Run.History` — the events of a run, each with what came of it

The events that a run records say what was asked of the client and of the sink, not what came of it. Both
other sides are state machines that the run does not look into, so what came of the events is found by asking
them again, in the same order. Statements about whole runs are made of the resulting *history*, never of the
run's own bookkeeping.

## Contents
- **Replies of any call.** `Yield` and `Client.respond`: one function for the six functions of a client.
- **Histories.** `Happening`, `Sides` and `Sides.history`.
- **Views.** `openedIn`, `closedIn`, `metadataIn`, `stopIn` and `notedIn` read a history; `Stage` is the part of a
  run that an event belongs to.
- **Steps.** `Run.Adds`: what one stretch of a run adds to the history, composed by `Run.Adds.trans`.
  `Run.Passes` is the stretch of a run that neither reads items nor uses the sink.
-/

namespace TopicReader

variable {σ : Type}

/-! ## Replies of any call -/

/-- What a call brings, whichever call it is. -/
inductive Yield where
  | nothing
  | metadata (m : TopicMetadata)
  | items (is : List Item)

/-- A reply with something else made of its result. -/
def Reply.map {α β : Type} (f : α → β) (r : Reply α) : Reply β := ⟨r.incidents, r.result.map f⟩

/-- What a client replies to a call, whichever call it is. -/
def Client.respond (c : Client σ) (call : Call) (s : σ) : Reply Yield × σ :=
  match call with
  | .start => ((c.start s).1.map fun _ => .nothing, (c.start s).2)
  | .stop => ((c.stop s).1.map fun _ => .nothing, (c.stop s).2)
  | .fetch topic seconds => ((c.fetch topic seconds s).1.map .metadata, (c.fetch topic seconds s).2)
  | .openStream topic p start =>
    ((c.openStream topic p start s).1.map fun _ => .nothing, (c.openStream topic p start s).2)
  | .closeStream topic p =>
    ((c.closeStream topic p s).1.map fun _ => .nothing, (c.closeStream topic p s).2)
  | .poll => ((c.poll Run.pollWait s).1.map .items, (c.poll Run.pollWait s).2)

/-- What a call comes to can be read off a value that is decided. -/
theorem ok_of_toOption {α : Type} {x : Except Failure α} {a : α} (h : x.toOption = some a) : x = .ok a := by
  cases x with
  | ok b => cases h; rfl
  | error f => cases h

/-! ## Histories -/

/-- An event with what came of it: the reply to a call, or whether the sink took what it was given. -/
inductive Happening where
  | called (call : Call) (reply : Reply Yield)
  | wrote (bytes : List UInt8) (taken : Bool)
  | flushed (taken : Bool)

/-- The other sides of a run: the client, and how often the sink was written to and flushed. -/
structure Sides (σ : Type) where
  client : σ
  writes : Nat
  flushes : Nat

/-- Does the sink take the bytes of a write? A count of all bytes says the same as no count. -/
def Sink.takes (sink : Sink) (number : Nat) (bytes : List UInt8) : Bool :=
  match sink.accept number with
  | .all => true
  | .silent => true
  | .part count => count = bytes.length
  | .refused _ => false

namespace Sides

/-- What comes of one event. -/
def meet (c : Client σ) (sink : Sink) (e : Event) (o : Sides σ) : Happening × Sides σ :=
  match e with
  | .call call => (.called call (c.respond call o.client).1, { o with client := (c.respond call o.client).2 })
  | .write bytes => (.wrote bytes (sink.takes o.writes bytes), { o with writes := o.writes + 1 })
  | .flush => (.flushed (sink.flushing o.flushes).isNone, { o with flushes := o.flushes + 1 })

/-- What comes of events, one after the other. -/
def history (c : Client σ) (sink : Sink) : List Event → Sides σ → List Happening
  | [], _ => []
  | e :: rest, o => (o.meet c sink e).1 :: history c sink rest (o.meet c sink e).2

/-- The other sides after events. -/
def after (c : Client σ) (sink : Sink) : List Event → Sides σ → Sides σ
  | [], o => o
  | e :: rest, o => after c sink rest (o.meet c sink e).2

theorem history_append (c : Client σ) (sink : Sink) (es fs : List Event) (o : Sides σ) :
    history c sink (es ++ fs) o = history c sink es o ++ history c sink fs (after c sink es o) := by
  induction es generalizing o with
  | nil => rfl
  | cons e rest ih => simp only [List.cons_append, history, after, ih]

theorem after_append (c : Client σ) (sink : Sink) (es fs : List Event) (o : Sides σ) :
    after c sink (es ++ fs) o = after c sink fs (after c sink es o) := by
  induction es generalizing o with
  | nil => rfl
  | cons e rest ih => simp only [List.cons_append, after, ih]

theorem history_length (c : Client σ) (sink : Sink) (es : List Event) (o : Sides σ) :
    (history c sink es o).length = es.length := by
  induction es generalizing o with
  | nil => rfl
  | cons e rest ih => rw [history, List.length_cons, List.length_cons, ih]

end Sides

/-! ## Views of a history -/

namespace Happening

/-- The event alone. -/
def event : Happening → Event
  | called call _ => .call call
  | wrote bytes _ => .write bytes
  | flushed _ => .flush

/-- Did it fail? -/
def failed : Happening → Bool
  | called _ reply => reply.result.toOption.isNone
  | wrote _ taken => !taken
  | flushed taken => !taken

/-- Is it a use of the sink? -/
def isUse : Happening → Bool
  | called .. => false
  | wrote .. | flushed _ => true

/-- Is it a stream that could not be opened? -/
def refusesStream (h : Happening) : Bool :=
  match h.event with
  | .call (.openStream ..) => h.failed
  | _ => false

/-- The stream that was opened: a call that fails opens none. -/
def opened? : Happening → Option (String × Int)
  | called (.openStream topic p _) ⟨_, .ok _⟩ => some (topic, p)
  | _ => none

/-- The stream whose close was asked for, whatever came of it. -/
def closed? : Happening → Option (String × Int)
  | called (.closeStream topic p) _ => some (topic, p)
  | _ => none

/-- The items that a poll brought. -/
def items : Happening → List Item
  | called .poll ⟨_, .ok (.items is)⟩ => is
  | _ => []

/-- Is it a poll? -/
def isPoll : Happening → Bool
  | called .poll _ => true
  | _ => false

/-- The metadata that a query brought. -/
def metadata? : Happening → Option TopicMetadata
  | called (.fetch ..) ⟨_, .ok (.metadata m)⟩ => some m
  | _ => none

/-- The reason for which a run is stopped by an incident. -/
def reasonOf : Incident → Option String
  | .stop reason => some reason
  | .note .. => none

/-- The stops that came from outside while a call ran. -/
def stops : Happening → List String
  | called _ reply => reply.incidents.filterMap reasonOf
  | _ => []

/-- Does an incident write a log record of a kind, told by its level and its origin? -/
def isNoteOf (kind : Level → String → Bool) : Incident → Bool
  | .stop _ => false
  | .note level origin _ _ => kind level origin

/-- The number of log records of a kind that the client wrote while a call ran. -/
def noted (kind : Level → String → Bool) : Happening → Nat
  | called _ reply => reply.incidents.countP (isNoteOf kind)
  | _ => 0

end Happening

/-- The parts of a history are the histories of their parts. -/
theorem Sides.history_append_inj {c : Client σ} {sink : Sink} {o : Sides σ} {hs gs : List Happening}
    (h : history c sink ((hs ++ gs).map Happening.event) o = hs ++ gs) :
    history c sink (hs.map Happening.event) o = hs
      ∧ history c sink (gs.map Happening.event) (after c sink (hs.map Happening.event) o) = gs := by
  rw [List.map_append, history_append] at h
  apply List.append_inj h
  rw [history_length, List.length_map]

/-- The parts of a run that an event may belong to. -/
inductive Stage where
  | setup
  | transfer
  | closing
  | ending
deriving DecidableEq, Repr

/-- The place of a part among the parts of a run. -/
def Stage.rank : Stage → Nat
  | setup => 0
  | transfer => 1
  | closing => 2
  | ending => 3

/-- The part of a run that an event belongs to: the client's start, its metadata and the opens come first, then
    polls and uses of the sink, then the closes, and last the client's stop. -/
def Event.stage : Event → Stage
  | .call .start | .call (.fetch ..) | .call (.openStream ..) => .setup
  | .call .poll | .write _ | .flush => .transfer
  | .call (.closeStream ..) => .closing
  | .call .stop => .ending

/-- Do all happenings belong to one part of a run? -/
def AllAt (stage : Stage) (hs : List Happening) : Prop := ∀ h ∈ hs, h.event.stage = stage

/-- Do all happenings use the sink? -/
def SinkOnly (hs : List Happening) : Prop := ∀ h ∈ hs, h.isUse = true

/-- The streams that were opened, in order. -/
def openedIn (hs : List Happening) : List (String × Int) := hs.filterMap Happening.opened?

/-- The streams whose close was asked for, in order. -/
def closedIn (hs : List Happening) : List (String × Int) := hs.filterMap Happening.closed?

/-- The metadata that queries brought, in order. -/
def metadataIn (hs : List Happening) : List TopicMetadata := hs.filterMap Happening.metadata?

/-- The number of polls. -/
def pollsIn (hs : List Happening) : Nat := hs.countP Happening.isPoll

/-- The first stop that came from outside. -/
def stopIn (hs : List Happening) : Option String := (hs.flatMap Happening.stops).head?

/-- The number of log records of a kind that the client wrote. -/
def notedIn (kind : Level → String → Bool) (hs : List Happening) : Nat := (hs.map (·.noted kind)).sum

@[simp] theorem openedIn_append (hs gs : List Happening) :
    openedIn (hs ++ gs) = openedIn hs ++ openedIn gs := List.filterMap_append

@[simp] theorem closedIn_append (hs gs : List Happening) :
    closedIn (hs ++ gs) = closedIn hs ++ closedIn gs := List.filterMap_append

@[simp] theorem metadataIn_append (hs gs : List Happening) :
    metadataIn (hs ++ gs) = metadataIn hs ++ metadataIn gs := List.filterMap_append

@[simp] theorem pollsIn_append (hs gs : List Happening) : pollsIn (hs ++ gs) = pollsIn hs + pollsIn gs :=
  List.countP_append

theorem AllAt.nil {stage : Stage} : AllAt stage [] := List.forall_mem_nil _

theorem AllAt.one {stage : Stage} {h : Happening} (same : h.event.stage = stage) : AllAt stage [h] :=
  List.forall_mem_singleton.mpr same

theorem AllAt.append {stage : Stage} {hs gs : List Happening} (h : AllAt stage hs) (g : AllAt stage gs) :
    AllAt stage (hs ++ gs) := fun x hx => (List.mem_append.mp hx).elim (h x) (g x)

theorem SinkOnly.nil : SinkOnly [] := List.forall_mem_nil _

theorem SinkOnly.append {hs gs : List Happening} (h : SinkOnly hs) (g : SinkOnly gs) :
    SinkOnly (hs ++ gs) := fun x hx => (List.mem_append.mp hx).elim (h x) (g x)

theorem SinkOnly.stage {hs : List Happening} (h : SinkOnly hs) : AllAt .transfer hs := by
  intro x hx
  match x, h x hx with
  | .wrote .., _ | .flushed _, _ => rfl

theorem SinkOnly.pollsIn_eq_zero {hs : List Happening} (h : SinkOnly hs) : pollsIn hs = 0 := by
  refine List.countP_eq_zero.mpr fun x hx => ?_
  match x, h x hx with
  | .wrote .., _ | .flushed _, _ => exact Bool.false_ne_true

/-- A poll and what is done with its items is one poll. -/
theorem SinkOnly.pollsIn_poll {hs : List Happening} (h : SinkOnly hs) (reply : Reply Yield) :
    pollsIn (.called .poll reply :: hs) = 1 := by
  have hzero := h.pollsIn_eq_zero
  unfold pollsIn at hzero ⊢
  rw [List.countP_cons, hzero]; rfl

/-- Using the sink leaves the client alone. -/
theorem SinkOnly.after_client {hs : List Happening} (h : SinkOnly hs) (c : Client σ) (sink : Sink)
    (o : Sides σ) : (o.after c sink (hs.map Happening.event)).client = o.client := by
  induction hs generalizing o with
  | nil => rfl
  | cons x rest ih =>
    have hrest := ih fun y hy => h y (List.mem_cons_of_mem _ hy)
    match x, h x List.mem_cons_self with
    | .wrote bytes _, _ => exact hrest (o.meet c sink (.write bytes)).2
    | .flushed _, _ => exact hrest (o.meet c sink .flush).2

/-- Only opens open streams, and they come first. -/
theorem openedIn_eq_nil {stage : Stage} {hs : List Happening} (h : AllAt stage hs) (hne : stage ≠ .setup) :
    openedIn hs = [] := by
  refine List.filterMap_eq_nil_iff.mpr fun x hx => ?_
  have hstage := h x hx
  match x with
  | .called (.openStream ..) _ => exact absurd hstage.symm hne
  | .called .start _ | .called .stop _ | .called (.fetch ..) _ | .called (.closeStream ..) _
  | .called .poll _ | .wrote .. | .flushed _ => rfl

/-- Only queries bring metadata, and they come first. -/
theorem metadataIn_eq_nil {stage : Stage} {hs : List Happening} (h : AllAt stage hs) (hne : stage ≠ .setup) :
    metadataIn hs = [] := by
  refine List.filterMap_eq_nil_iff.mpr fun x hx => ?_
  have hstage := h x hx
  match x with
  | .called (.fetch ..) _ => exact absurd hstage.symm hne
  | .called .start _ | .called .stop _ | .called (.openStream ..) _ | .called (.closeStream ..) _
  | .called .poll _ | .wrote .. | .flushed _ => rfl

/-- Only closes close streams. -/
theorem closedIn_eq_nil {stage : Stage} {hs : List Happening} (h : AllAt stage hs) (hne : stage ≠ .closing) :
    closedIn hs = [] := by
  refine List.filterMap_eq_nil_iff.mpr fun x hx => ?_
  have hstage := h x hx
  match x with
  | .called (.closeStream ..) _ => exact absurd hstage.symm hne
  | .called .start _ | .called .stop _ | .called (.fetch ..) _ | .called (.openStream ..) _
  | .called .poll _ | .wrote .. | .flushed _ => rfl

/-- Only the transfer uses the sink. -/
theorem filter_isUse_eq_nil {stage : Stage} {hs : List Happening} (h : AllAt stage hs)
    (hne : stage ≠ .transfer) : hs.filter Happening.isUse = [] := by
  refine List.filter_eq_nil_iff.mpr fun x hx => ?_
  have hstage := h x hx
  match x with
  | .wrote .. | .flushed _ => exact absurd hstage.symm hne
  | .called .. => exact Bool.false_ne_true

/-- Where nothing is closed, no close was asked for. -/
theorem AllAt.eq_nil {hs : List Happening} (h : AllAt .closing hs) (none : closedIn hs = []) : hs = [] := by
  refine List.eq_nil_iff_forall_not_mem.mpr fun x hx => ?_
  have hstage := h x hx
  have hclosed := List.filterMap_eq_nil_iff.mp none x hx
  match x with
  | .called (.closeStream ..) _ => cases hclosed
  | .called .start _ | .called .stop _ | .called (.fetch ..) _ | .called (.openStream ..) _
  | .called .poll _ | .wrote .. | .flushed _ => cases hstage

/-- Only the transfer polls. -/
theorem pollsIn_eq_zero {stage : Stage} {hs : List Happening} (h : AllAt stage hs) (hne : stage ≠ .transfer) :
    pollsIn hs = 0 := by
  refine List.countP_eq_zero.mpr fun x hx => ?_
  have hstage := h x hx
  match x with
  | .called .poll _ => exact absurd hstage.symm hne
  | .called .start _ | .called .stop _ | .called (.fetch ..) _ | .called (.openStream ..) _
  | .called (.closeStream ..) _ | .wrote .. | .flushed _ => exact Bool.false_ne_true

@[simp] theorem notedIn_append (kind : Level → String → Bool) (hs gs : List Happening) :
    notedIn kind (hs ++ gs) = notedIn kind hs + notedIn kind gs := by simp [notedIn]

/-! ## Standing -/

namespace Standing

/-- The standing after something that may be a reason to stop. -/
def after (s : Standing) : Option String → Standing
  | some reason => s.stop reason
  | none => s

@[simp] theorem after_none (s : Standing) : s.after none = s := rfl

@[simp] theorem after_stopped (why : String) (r : Option String) :
    (stopped why).after r = stopped why := by cases r <;> rfl

/-- A run goes on if it went on and there was no reason to stop. -/
theorem after_eq_running {s : Standing} {r : Option String} (h : s.after r = running) :
    s = running ∧ r = none := by
  cases s <;> cases r <;> first | exact ⟨rfl, rfl⟩ | cases h

/-- Of two reasons the first one counts. -/
theorem after_after (s : Standing) (a b : Option String) : (s.after a).after b = s.after (a.or b) := by
  cases s <;> cases a <;> cases b <;> rfl

end Standing

theorem stopIn_append (hs gs : List Happening) : stopIn (hs ++ gs) = (stopIn hs).or (stopIn gs) := by
  simp [stopIn, List.head?_append]

namespace Run

/-! ## What one stretch of a run adds -/

/-- The other sides of a run at this moment. -/
def sides (run : Run σ) : Sides σ := ⟨run.client, run.output.writes, run.output.flushes⟩

/-- The number of log records of a kind, told by its level and its origin. -/
def logged (kind : Level → String → Bool) (run : Run σ) : Nat :=
  run.journal.entries.countP fun e => kind e.level e.origin

/-- The levels and origins of the records that a run writes between its start and its end. -/
def ownKinds : List (Level × String) :=
  [(Level.debug, stopOrigin), (Level.debug, loopOrigin), (Level.debug, EndNotice.origin),
   (Level.info, EndNotice.origin), (Level.warning, EndNotice.origin), (Level.debug, streamsOrigin),
   (Level.info, streamsOrigin), (Level.warning, streamsOrigin), (Level.info, topicOrigin),
   (Level.debug, runOrigin), (Level.warning, runOrigin)]

/-- A kind of log records that a run does not write between its start and its end. -/
def Spares (kind : Level → String → Bool) : Prop := ∀ k ∈ ownKinds, kind k.1 k.2 = false

/-- **One stretch of a run** adds some happenings: they are what the other sides make of the events that were
    recorded. Of the kinds of log records that are not the run's own, it adds those of the client only. -/
structure Adds (c : Client σ) (sink : Sink) (hs : List Happening) (run run' : Run σ) : Prop where
  events : run'.events = (hs.map Happening.event).reverse ++ run.events
  history : run.sides.history c sink (hs.map Happening.event) = hs
  sides : run.sides.after c sink (hs.map Happening.event) = run'.sides
  logged : ∀ kind, Spares kind → run'.logged kind = run.logged kind + notedIn kind hs

theorem Adds.refl (c : Client σ) (sink : Sink) (run : Run σ) : Adds c sink [] run run :=
  ⟨rfl, rfl, rfl, fun _ _ => rfl⟩

/-- Stretches that follow each other. -/
theorem Adds.trans {c : Client σ} {sink : Sink} {hs gs : List Happening} {r₁ r₂ r₃ : Run σ}
    (h : Adds c sink hs r₁ r₂) (g : Adds c sink gs r₂ r₃) : Adds c sink (hs ++ gs) r₁ r₃ where
  events := by rw [g.events, h.events]; simp
  history := by rw [List.map_append, Sides.history_append, h.history, h.sides, g.history]
  sides := by rw [List.map_append, Sides.after_append, h.sides, g.sides]
  logged kind hk := by rw [g.logged kind hk, h.logged kind hk, notedIn_append, Nat.add_assoc]

/-- **A stretch of calls.** The run itself moves only in its standing, which the stops from outside decide. -/
structure Passes (c : Client σ) (sink : Sink) (hs : List Happening) (run run' : Run σ) : Prop
    extends Adds c sink hs run run' where
  standing : run'.standing = run.standing.after (stopIn hs)
  output : run'.output = run.output
  received : run'.received = run.received
  tracker : run'.tracker = run.tracker
  closed : run'.closed = run.closed

theorem Passes.refl (c : Client σ) (sink : Sink) (run : Run σ) : Passes c sink [] run run :=
  ⟨.refl c sink run, rfl, rfl, rfl, rfl, rfl⟩

theorem Passes.trans {c : Client σ} {sink : Sink} {hs gs : List Happening} {r₁ r₂ r₃ : Run σ}
    (h : Passes c sink hs r₁ r₂) (g : Passes c sink gs r₂ r₃) : Passes c sink (hs ++ gs) r₁ r₃ where
  toAdds := h.toAdds.trans g.toAdds
  standing := by rw [g.standing, h.standing, Standing.after_after, stopIn_append]
  output := g.output.trans h.output
  received := g.received.trans h.received
  tracker := g.tracker.trans h.tracker
  closed := g.closed.trans h.closed

/-- What adds nothing can be left out behind a stretch. -/
theorem Passes.quietly {c : Client σ} {sink : Sink} {hs : List Happening} {r₁ r₂ r₃ : Run σ}
    (h : Passes c sink hs r₁ r₂) (g : Passes c sink [] r₂ r₃) : Passes c sink hs r₁ r₃ := by
  rw [← List.append_nil hs]; exact h.trans g

theorem Passes.append_nil {c : Client σ} {sink : Sink} {hs : List Happening} {run run' : Run σ}
    (h : Passes c sink hs run run') : Passes c sink (hs ++ []) run run' := by
  rw [List.append_nil]; exact h

end Run

end TopicReader
