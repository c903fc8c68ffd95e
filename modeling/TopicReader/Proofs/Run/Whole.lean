import TopicReader.Proofs.Run.Loop

/-!
# `Proofs.Run.Whole` — a whole run, part by part

A run with usable settings connects, transfers and releases. `Proofs.Run.Calls` has the first part and
`Proofs.Run.Loop` the heart of the second; here are the flush that ends it and the release, and the parts are
put together: what a run went through is one of two things, and `consumeFrom_goes` says which.

## Contents
- **The rule of a run.** `Settings.rule`.
- **Transferring.** `Transferred`, `transfer_transferred`: the loop and the last flush.
- **Releasing.** `settle_releases`: every open stream is closed, and the client is stopped.
- **Failing and summing up.** `fail_eq`, `logged_summarize`.
- **Evaluating.** `consume_eq`, `connect_eq`, `partitionsFor_healthy`: a run on given inputs, step by step.
- **The run.** `Goes` and `Leaves`, `consumeFrom_goes`.
-/

namespace TopicReader

variable {σ : Type}

/-- What decides how reading ends in a run that opened some partitions. -/
def Settings.rule (s : Settings) (sink : Sink) (opened : List Int) : Rule :=
  ⟨opened, s.partition.isSome, s.exitOnEnd, s.limit, sink, s.layout⟩

namespace Run

variable (c : Client σ)

/-! ## Transferring -/

/-- **What the transfer comes to**, with the loop alone or with the flush after it. A run that was stopped before
    does not poll at all. -/
structure Transferred (rule : Rule) (fuel : Nat) (hs : List Happening) (run : Run σ)
    (outcome : Option (Except Failure Unit) × Run σ) : Prop where
  transfers : Transfers c rule.sink hs run outcome.2
  standing : outcome.2.standing = run.standing.after ((rule.finish? [] (cuesIn hs)).bind Finish.reason?)
  result : match outcome.1 with
    | none => run.standing = .running ∧ rule.finish? [] (cuesIn hs) = none ∧ pollsIn hs = fuel
    | some (.ok ()) =>
      (∀ h ∈ hs, h.failed = false)
        ∧ (run.standing = .running → ∃ why, rule.finish? [] (cuesIn hs) = some (.stopped why))
    | some (.error _) =>
      (∃ h ∈ hs, h.failed = true)
        ∨ (run.standing = .running ∧ ∃ f, rule.finish? [] (cuesIn hs) = some (.broken f))
  accepted : ((∃ f, rule.finish? [] (cuesIn hs) = some (.broken f)) → rule.Works) →
    outcome.2.output.accepted = (rule.output (rule.taken [] (cuesIn hs))).accepted
  final : run.standing = .running → outcome.1 ≠ none → ∃ init reply uses,
    hs = init ++ .called .poll reply :: uses ∧ SinkOnly uses ∧ rule.finish? [] (cuesIn init) = none
      ∧ ∀ h ∈ init, h.failed = false

/-- Emptying the buffer adds one flush. -/
theorem flush_transfers (sink : Sink) (run : Run σ) :
    Transfers c sink [.flushed (sink.flushing run.output.flushes).isNone] run (run.flush sink).2
      ∧ (run.flush sink).2.standing = run.standing
      ∧ (run.flush sink).2.output.accepted = run.output.accepted
      ∧ ((run.flush sink).1 = .ok () ↔ sink.flushing run.output.flushes = none) := by
  unfold flush Output.flush
  cases hflush : sink.flushing run.output.flushes with
  | none =>
    refine ⟨⟨⟨rfl, ?_, rfl, fun _ _ => rfl⟩, .one rfl, rfl, rfl⟩,
      rfl, rfl, by simp⟩
    simp [Happening.event, Sides.history, Sides.meet, sides, hflush]
  | some f =>
    refine ⟨⟨⟨rfl, ?_, rfl, fun _ _ => rfl⟩, .one rfl, rfl, rfl⟩,
      rfl, rfl, by simp⟩
    simp [Happening.event, Sides.history, Sides.meet, sides, hflush]

/-- A flush behind the loop changes nothing of how reading ended. -/
theorem cuesIn_append_flushed (hs : List Happening) (taken : Bool) :
    cuesIn (hs ++ [.flushed taken]) = cuesIn hs := by
  rw [cuesIn_append, show cuesIn [.flushed taken] = [] from rfl, List.append_nil]

theorem loop_transferred (rule : Rule) (fuel : Nat) (run : Run σ) (unread : run.received = 0)
    (unwritten : run.output = .empty)
    (tracker : run.tracker = .ofPartitions rule.scope rule.single rule.active) :
    ∃ hs, Transferred c rule fuel hs run (run.loop c rule.sink rule.layout rule.limit fuel) := by
  obtain ⟨start, hbegin, hkeep, hresult, hend, hleave⟩ := loop_eq c rule fuel run
  have hreads : Reads rule [] start := (Reads.nil unwritten unread tracker).passes hbegin
  have hstart : start.standing = run.standing := hbegin.standing
  have hlast := hend.standing
  rw [show stopIn [] = none from rfl, Standing.after_none] at hlast
  -- A run that was stopped before does not poll; otherwise the loop is what `drain_drains` says.
  cases hrun : run.standing with
  | running =>
    obtain ⟨hs, hdrain⟩ := drain_drains (c := c) hreads (hstart.trans hrun) fuel
    have htrans := ((hbegin.transfers hkeep).trans hdrain.transfers).trans (hend.transfers hleave)
    rw [List.nil_append, List.append_nil] at htrans
    refine ⟨hs, htrans, ?_, ?_, fun hworks => ?_, fun _ hend => hdrain.final (hresult ▸ hend)⟩
    · rw [hlast, hrun]; exact hdrain.standing
    · have hres := hdrain.result
      rw [hresult]
      generalize start.drain c rule.sink rule.layout rule.limit fuel = outcome at hres ⊢
      obtain ⟨result, next⟩ := outcome
      match result with
      | none => exact ⟨hrun, hres⟩
      | some (.ok ()) => exact ⟨hres.2, fun _ => hres.1⟩
      | some (.error f) => exact hres.imp_right fun hbroken => ⟨hrun, hbroken⟩
    · rw [hend.output, (hdrain.reads hworks).output]; rfl
  | stopped why =>
    have hstopped : start.standing.isRunning = false := by rw [hstart, hrun]; rfl
    have hdrain := drain_of_stopped (c := c) hstopped rule.sink rule.layout rule.limit fuel
    rw [hdrain] at hresult hend hlast hleave
    have htrans := (hbegin.transfers hkeep).trans (hend.transfers hleave)
    refine ⟨[], htrans, ?_, ?_, fun _ => ?_, fun hgoes => by rw [hrun] at hgoes; cases hgoes⟩
    · rw [hlast, hstart]; rfl
    · rw [hresult]
      exact ⟨List.forall_mem_nil _, fun hgoes => by rw [hrun] at hgoes; cases hgoes⟩
    · rw [hend.output, hreads.output]; rfl

/-- The tracker that a run starts out with is none of its history. -/
theorem Transfers.untracked {c : Client σ} {sink : Sink} {hs : List Happening} {t : EndTracker}
    {run run' : Run σ} (h : Transfers c sink hs { run with tracker := t } run') :
    Transfers c sink hs run run' :=
  ⟨⟨h.events, h.history, h.sides, h.logged⟩, h.stage, h.streams, h.closed⟩

/-- The transfer is the loop, and after a loop that did not fail a flush. -/
theorem transfer_transferred (sink : Sink) (s : Settings) (fuel : Nat) (opened : List Int) (run : Run σ)
    (unread : run.received = 0) (unwritten : run.output = .empty) :
    ∃ hs, Transferred c (s.rule sink opened) fuel hs run (run.transfer c sink s fuel opened)
      ∧ ((run.transfer c sink s fuel opened).1 = some (.ok ()) → hs.getLast? = some (.flushed true)) := by
  obtain ⟨hs, htrans, hstanding, hres, hwritten, hfinal⟩ := loop_transferred c (s.rule sink opened) fuel
    { run with tracker := .ofPartitions opened s.partition.isSome s.exitOnEnd } unread unwritten rfl
  replace htrans := htrans.untracked
  unfold transfer
  simp only [Settings.rule] at htrans hstanding hres hwritten hfinal ⊢
  generalize Run.loop c sink s.layout s.limit fuel { run with tracker := _ } = outcome
    at htrans hstanding hres hwritten hfinal ⊢
  obtain ⟨result, next⟩ := outcome
  match result with
  | none => exact ⟨hs, ⟨htrans, hstanding, hres, hwritten, hfinal⟩, fun h => by cases h⟩
  | some (.error f) => exact ⟨hs, ⟨htrans, hstanding, hres, hwritten, hfinal⟩, fun h => by cases h⟩
  | some (.ok ()) =>
    obtain ⟨hflush, hsame, hkept, hok⟩ := flush_transfers c sink next
    dsimp only
    generalize next.flush sink = flushed at hflush hsame hkept hok ⊢
    obtain ⟨result, last⟩ := flushed
    refine ⟨_, ⟨htrans.trans hflush, ?_, ?_, ?_, fun hgoes _ => ?_⟩, fun h => ?_⟩
    · rw [cuesIn_append_flushed]; exact hsame.trans hstanding
    · rw [cuesIn_append_flushed]
      cases result with
      | ok u =>
        refine ⟨List.forall_mem_append.mpr ⟨hres.1, fun h hh => ?_⟩, hres.2⟩
        rw [List.mem_singleton.mp hh, hok.mp rfl]; rfl
      | error f =>
        refine .inl ⟨_, List.mem_append_right _ (List.mem_singleton_self _), ?_⟩
        cases hflushing : sink.flushing next.output.flushes with
        | none => exact absurd (hok.mpr hflushing) fun h => by cases h
        | some g => rfl
    · rw [cuesIn_append_flushed, hkept]; exact hwritten
    · obtain ⟨init, reply, uses, rfl, honly, hnone, hfine⟩ := hfinal hgoes (fun h => by cases h)
      refine ⟨init, reply, uses ++ [.flushed (sink.flushing next.output.flushes).isNone], ?_, ?_, hnone, hfine⟩
      · simp
      · exact honly.append (List.forall_mem_singleton.mpr rfl)
    · rw [List.getLast?_concat, hok.mp (Option.some.inj h)]; rfl

/-! ## Releasing -/

/-- **The release** closes every stream that is still open, the latest first, and stops the client, whatever came
    of the closes. -/
theorem settle_releases (sink : Sink) (topic : String) (run : Run σ) (hopen : run.closed = false) :
    ∃ gs reply, Passes c sink (gs ++ [.called .stop reply]) { run with closed := true } (run.settle c topic)
      ∧ AllAt .closing gs ∧ closedIn gs = run.streams.map (topic, ·) := by
  obtain ⟨gs, hclose, hstage, hclosed, -⟩ :=
    closeStreams_passes c sink topic { run with closed := true }
  unfold settle release
  rw [hopen]
  simp only [Bool.false_eq_true, if_false]
  generalize ({ run with closed := true } : Run σ).closeStreams c topic = bare at hclose ⊢
  cases hstop : bare.stop c with
  | mk result next =>
  obtain ⟨is, hcall, -⟩ := ask_called c sink (g := fun _ => .nothing) (fun _ => rfl) hstop
  have hboth := hclose.trans hcall
  cases result with
  | ok u =>
    exact ⟨gs, _, hboth.quietly (note_passes c sink (by simp [ownKinds]) _ _ next), hstage, hclosed⟩
  | error f =>
    exact ⟨gs, _, hboth.quietly (noteFailure_passes c sink (by simp [ownKinds]) _ _ _ f next), hstage, hclosed⟩

/-! ## Failing and summing up -/

/-- A failure stops the run, unless it was stopped before, and is written to the log. -/
theorem fail_eq (topic : String) (f : Failure) (run : Run σ) :
    run.fail topic f = { run with
      standing := run.standing.stop "error", journal := (run.fail topic f).journal } := by
  unfold fail
  rw [halt_eq]; rfl

theorem logged_fail {kind : Level → String → Bool} (hk : Spares kind) (topic : String) (f : Failure)
    (run : Run σ) : (run.fail topic f).logged kind
      = run.logged kind + (if kind Level.error runOrigin then 1 else 0) := by
  rw [fail, logged_noteFailure, logged_halt hk]

/-- Introducing and announcing a run is for the log only. -/
theorem announce_passes (sink : Sink) (s : Settings) (start : Offset) (run : Run σ) :
    Passes c sink [] run ((run.introduce s).announce s start)
      ∧ ((run.introduce s).announce s start).streams = run.streams := by
  have hlines : ∀ (lines : List String) (r : Run σ),
      Passes c sink [] r (lines.foldl (fun r line => r.note Level.debug runOrigin line []) r)
        ∧ (lines.foldl (fun r line => r.note Level.debug runOrigin line []) r).streams = r.streams := by
    intro lines
    induction lines with
    | nil => exact fun r => ⟨.refl c sink r, rfl⟩
    | cons line rest ih =>
      intro r
      obtain ⟨hrest, hkeep⟩ := ih (r.note Level.debug runOrigin line [])
      exact ⟨(note_passes c sink (by simp [ownKinds]) _ _ r).trans hrest, hkeep⟩
  have hintro : Passes c sink [] run (run.introduce s) :=
    ⟨⟨rfl, rfl, rfl, fun _ _ => rfl⟩, rfl, rfl, rfl, rfl, rfl⟩
  obtain ⟨hpass, hkeep⟩ := hlines (Startup.ofSettings s start) (run.introduce s)
  exact ⟨hintro.trans hpass, hkeep⟩

/-! ## Evaluating -/

/-- With settings that can be used, a run starts at the offset that they name. -/
theorem consume_eq {c : Client σ} {sink : Sink} {s : Settings} {k : Clock} {start : Offset} {fuel : Nat}
    {run : Run σ} (usable : starting s = .ok start) :
    run.consume c sink s k fuel = run.consumeFrom c sink s k start fuel := by
  rw [consume, usable]

/-- Where the metadata comes and is healthy, connecting is opening streams. -/
theorem connect_eq {s : Settings} {start : Offset} {run r₁ r₂ : Run σ} {seconds : Double} {m : TopicMetadata}
    {ids : List Int} (started : run.start c = (.ok (), r₁))
    (timed : Value.quotient s.connection.metadataTimeout 1000 = .ok seconds)
    (fetched : r₁.fetch c s.topic seconds = (.ok m, r₂)) (found : m.partitionsFor s.topic s.partition = .ok ids) :
    run.connect c s start = (r₂.note Level.info topicOrigin
      ("Resolved topic " ++ s.topic ++ " with " ++ ids.length.repr ++ " partitions")
      [("topic", .text s.topic), ("partition_count", .int ids.length)]).openStreams c s.topic ids start
        s.partition := by
  simp only [connect, resolve, started, timed, fetched, found]

/-- A result that is known, and what comes with it. -/
theorem eq_mk_of_fst {α β : Type} {x : α × β} {a : α} (h : x.1 = a) : x = (a, x.2) := Prod.ext h rfl

/-- The time limit where none is set: five seconds. -/
theorem usual_timed :
    Value.quotient Connection.usual.metadataTimeout 1000 = .ok (.finite false (5 * 2 ^ 50) (-50)) := rfl

/-- The partitions of a topic without errors are its partitions in ascending order. -/
theorem partitionsFor_healthy {m : TopicMetadata} {ids : List Int} (present : m.present = true)
    (healthy : m.error = none) (some : m.partitions ≠ []) (each : ∀ p ∈ m.partitions, p.error = none)
    (topic : String) (sorted : TopicMetadata.ascending (m.partitions.map (·.id)) = ids) :
    m.partitionsFor topic none = .ok ids := by
  have hnone : TopicMetadata.failing? none m.partitions = none := by
    refine List.findSome?_eq_none_iff.mpr fun p hp => ?_
    rw [each p hp]; rfl
  have hunnamed : ∀ e, ¬ TopicMetadata.Names m.error e := by
    intro e hnames
    cases healthy.symm.trans hnames.1
  have hsound : m.Sound := ⟨present, hunnamed, some⟩
  rw [hsound.partitionsFor_eq, hnone]
  exact congrArg Except.ok sorted

/-! ## The run -/

/-- What a result makes of the standing of a run. -/
def standingWith (result : Except Failure Unit) (st : Standing) : Standing :=
  match result with
  | .ok () => st
  | .error _ => st.stop "error"

/-- The ending that a result leads to. -/
def endingWith (result : Except Failure Unit) : Ending :=
  match result with
  | .ok () => .fine
  | .error _ => .fatal

/-- **What a run goes through** from its first call on, with its ending, its last standing and its output. Either
    it does not come to open all its streams, or it opens them, transfers, and closes them. In both cases the
    client's stop is the end. -/
inductive Goes (s : Settings) (start : Offset) (sink : Sink) (fuel : Nat) (st : Standing) :
    List Happening → Ending → Standing → Output → Prop where
  | thwarted {hs gs : List Happening} {reply : Reply Yield} (thwarted : Thwarted s hs gs) :
    Goes s start sink fuel st (hs ++ gs ++ [.called .stop reply]) .fatal
      (((st.after (stopIn (hs ++ gs))).stop "error").after (stopIn [.called .stop reply])) .empty
  | through {hs ls gs : List Happening} {opened : List Int} {reply : Reply Yield} {mid next : Run σ}
    {result : Except Failure Unit} (connected : Connected s start hs opened)
    (began : mid.standing = st.after (stopIn hs))
    (transferred : Transferred c (s.rule sink opened) fuel ls mid (some result, next))
    (flushed : result = .ok () → ls.getLast? = some (.flushed true)) (closing : AllAt .closing gs)
    (closed : closedIn gs = opened.reverse.map (s.topic, ·)) :
    Goes s start sink fuel st (hs ++ ls ++ (gs ++ [.called .stop reply])) (endingWith result)
      ((standingWith result next.standing).after (stopIn (gs ++ [.called .stop reply]))) next.output

/-- What a run leaves behind when it has ended: its events and the log. A fatal ending is written to the log once,
    and the summary is what comes last. -/
structure Leaves (sink : Sink) (k : Clock) (hs : List Happening) (ending : Ending) (run last : Run σ) : Prop where
  events : last.events = (hs.map Happening.event).reverse ++ run.events
  history : run.sides.history c sink (hs.map Happening.event) = hs
  sides : run.sides.after c sink (hs.map Happening.event) = last.sides
  logged : ∀ kind, Spares kind → last.logged kind = run.logged kind + notedIn kind hs
    + (if ending = .fatal ∧ kind Level.error runOrigin then 1 else 0)
    + (if kind Level.info runOrigin then 1 else 0)
  summary : ∃ earlier : Run σ, earlier.standing = last.standing ∧ last = earlier.summarize k

/-- The summary is one more record of the log, and nothing else. -/
theorem logged_summarize (kind : Level → String → Bool) (k : Clock) (run : Run σ) :
    (run.summarize k).logged kind = run.logged kind + (if kind Level.info runOrigin then 1 else 0) :=
  logged_note kind _ _ _ _ run

/-- What follows the body of a run: a failure is noted, everything is released, and the run is summed up. -/
theorem finish_leaves {sink : Sink} {hs : List Happening} {run mid : Run σ} (topic : String) (k : Clock)
    (result : Except Failure Unit) (body : Adds c sink hs run mid) (hopen : mid.closed = false) :
    ∃ gs reply, (mid.finish c topic k result).1 = endingWith result
      ∧ (mid.finish c topic k result).2.standing
        = (standingWith result mid.standing).after (stopIn (gs ++ [.called .stop reply]))
      ∧ (mid.finish c topic k result).2.output = mid.output
      ∧ AllAt .closing gs ∧ closedIn gs = mid.streams.map (topic, ·)
      ∧ Leaves c sink k (hs ++ (gs ++ [.called .stop reply])) (endingWith result) run
        (mid.finish c topic k result).2 := by
  -- `next` is the run after the failure was noted, if there is one: nothing but its standing and its log differ.
  obtain ⟨next, hnext, hevents, hsides, houtput, hclosed, hstreams, hstanding, hlogged⟩ :
      ∃ next : Run σ, mid.finish c topic k result = (endingWith result, (next.settle c topic).summarize k)
        ∧ next.events = mid.events ∧ next.sides = mid.sides ∧ next.output = mid.output
        ∧ next.closed = mid.closed
        ∧ next.streams = mid.streams ∧ next.standing = standingWith result mid.standing
        ∧ ∀ kind, Spares kind → next.logged kind
          = mid.logged kind + (if endingWith result = .fatal ∧ kind Level.error runOrigin then 1 else 0) := by
    cases result with
    | ok u => exact ⟨mid, rfl, rfl, rfl, rfl, rfl, rfl, rfl, fun _ _ => by simp [endingWith]⟩
    | error f =>
      have hfail := fail_eq topic f mid
      refine ⟨mid.fail topic f, rfl, ?_, ?_, ?_, ?_, ?_, ?_, fun kind hk => ?_⟩
      · rw [hfail]
      · rw [hfail]; rfl
      · rw [hfail]
      · rw [hfail]
      · rw [hfail]
      · rw [hfail]; rfl
      · rw [logged_fail hk]; simp [endingWith]
  obtain ⟨gs, reply, hpass, hstage, hgs⟩ := settle_releases c sink topic next (hclosed.trans hopen)
  rw [hnext]
  refine ⟨gs, reply, rfl, ?_, hpass.output.trans houtput, hstage, hgs.trans (by rw [hstreams]), ?_, ?_, ?_,
    fun kind hk => ?_, ?_⟩
  · rw [← hstanding]; exact hpass.standing
  · have hlast := hpass.events
    change (next.settle c topic).events = _ ++ next.events at hlast
    change (next.settle c topic).events = _
    rw [hlast, hevents, body.events]; simp
  · have hlast := hpass.history
    change next.sides.history c sink _ = _ at hlast
    rw [List.map_append, Sides.history_append, body.history, body.sides, ← hsides, hlast]
  · have hlast := hpass.sides
    change next.sides.after c sink _ = _ at hlast
    rw [List.map_append, Sides.after_append, body.sides, ← hsides, hlast]; rfl
  · have hlast := hpass.logged kind hk
    change _ = next.logged kind + _ at hlast
    rw [logged_summarize, hlast, hlogged kind hk, body.logged kind hk, notedIn_append kind hs]
    omega
  · exact ⟨next.settle c topic, rfl, rfl⟩

/-- A run that can still be released, and that has not read yet. -/
structure Unused (run : Run σ) : Prop where
  streams : run.streams = []
  closed : run.closed = false
  received : run.received = 0
  output : run.output = .empty

/-- **A run with usable settings** has an ending and goes through its parts, or it has used up its fuel in the
    loop. -/
theorem consumeFrom_goes (sink : Sink) (s : Settings) (k : Clock) (start : Offset) (fuel : Nat) (run : Run σ)
    (unused : Unused run) :
    match run.consumeFrom c sink s k start fuel with
    | (none, last) => ∃ hs, Adds c sink hs run last ∧ pollsIn hs = fuel ∧ last.standing = .running
    | (some ending, last) =>
      ∃ hs, Goes c s start sink fuel run.standing hs ending last.standing last.output
        ∧ Leaves c sink k hs ending run last := by
  obtain ⟨hintro, hkeep⟩ := announce_passes c sink s start run
  unfold consumeFrom body
  generalize (run.introduce s).announce s start = begun at hintro hkeep ⊢
  rcases connect_connects c sink s start begun (hkeep.trans unused.streams) with
    ⟨opened, hs, hok, hpass, hconnected, hstreams⟩ | ⟨f, hs, gs, herr, hpass, hthwarted, hstreams⟩
  · have hbody := hintro.trans hpass
    rw [List.nil_append] at hbody
    generalize begun.connect c s start = connected at hok hbody hstreams ⊢
    obtain ⟨result, mid⟩ := connected
    cases hok
    obtain ⟨ls, htransferred, hflushed⟩ := transfer_transferred c sink s fuel opened mid
      (hbody.received.trans unused.received) (hbody.output.trans unused.output)
    dsimp only
    generalize mid.transfer c sink s fuel opened = outcome at htransferred hflushed ⊢
    obtain ⟨result, next⟩ := outcome
    have hadds := hbody.toAdds.trans htransferred.transfers.toAdds
    cases result with
    | none =>
      obtain ⟨hgoes, hnone, hpolls⟩ := htransferred.result
      have hstanding := htransferred.standing
      rw [hnone, hgoes] at hstanding
      refine ⟨hs ++ ls, hadds, ?_, hstanding⟩
      rw [pollsIn_append, pollsIn_eq_zero hconnected.setup (by decide), hpolls, Nat.zero_add]
    | some result =>
      obtain ⟨gs, reply, hending, hstanding, houtput, hstage, hgs, hleaves⟩ := finish_leaves c s.topic k result hadds
        (htransferred.transfers.closed.trans (hbody.closed.trans unused.closed))
      have hend : some (next.finish c s.topic k result).1 = some (endingWith result) := congrArg some hending
      dsimp only
      refine ⟨_, ?_, hending ▸ hleaves⟩
      rw [hending, hstanding, houtput]
      refine .through hconnected hbody.standing htransferred (fun h => hflushed (congrArg some h)) hstage ?_
      rw [hgs, htransferred.transfers.streams, hstreams]
  · have hbody := hintro.trans hpass
    rw [List.nil_append] at hbody
    generalize begun.connect c s start = connected at herr hbody hstreams ⊢
    obtain ⟨result, mid⟩ := connected
    cases herr
    obtain ⟨rest, reply, hending, hstanding, houtput, hstage, hrest, hleaves⟩ := finish_leaves c s.topic k (.error f)
      hbody.toAdds (hbody.closed.trans unused.closed)
    -- Every stream was closed before, so nothing is left for the release but the client's stop.
    rw [hstreams, List.map_nil] at hrest
    cases hstage.eq_nil hrest
    dsimp only
    refine ⟨_, ?_, hending ▸ hleaves⟩
    rw [hending, hstanding, houtput]
    show Goes c s start sink fuel run.standing _ .fatal _ mid.output
    rw [hbody.standing, hbody.output, unused.output, List.nil_append]
    exact .thwarted hthwarted

end Run

end TopicReader
