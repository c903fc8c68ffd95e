import TopicReader.Proofs.Run.Outcome

/-!
# `Proofs.Run.Failing` — which failure a run ends with, and what its log says of it

`Proofs.Run.Outcome` tells from the history of a run whether it fails. Here it is told what it fails with: if a call
fails before the release, it is that failure, as a problem of the partition where a stream could not be opened; if
reading breaks off, it is the failure that it broke off with. The log has one error then, and it is the record of just
this failure, since nothing that follows in the run writes another one.

## Contents
- **Accounting.** `Call.failure` and `Accounts`: a result that agrees with whatever failed.
- **Parts.** `connect_accounts`, `drain_accounts`, `transfer_accounts`, `body_accounts`.
- **Errors in the log.** `latestError?`; `Discreet` clients write none; `settle_latestError?`.
- **The run.** `consumeFrom_fails`; `consumeFrom_lasts` for a run that has used up its fuel.
- **Items that break off.** `Goes.fatal_iff_of_fine`, `finishIn_of_failed`; with a `Sink.Works` nothing else does,
  `Rule.broken_of_works`.
-/

namespace TopicReader

variable {σ α : Type}

/-! ## Accounting -/

/-- What a run makes of a failure of a call: a stream that cannot be opened is a problem of its partition. -/
def Call.failure (call : Call) (f : Failure) : Failure :=
  match call with
  | .openStream topic p o => Run.openFailure topic p o f
  | _ => f

/-- **A result accounts for a history**: if a call failed before the release, the result is that failure. -/
def Accounts (hs : List Happening) (result : Except Failure α) : Prop :=
  ∀ call is g, .called call ⟨is, .error g⟩ ∈ hs → (Event.call call).stage.rank < Stage.closing.rank →
    result = .error (call.failure g)

namespace Accounts

variable {hs gs : List Happening} {result : Except Failure α}

theorem append (h : Accounts hs result) (g : Accounts gs result) : Accounts (hs ++ gs) result :=
  fun call is e hmem hrank => (List.mem_append.mp hmem).elim (h call is e · hrank) (g call is e · hrank)

/-- Where nothing failed, any result will do. -/
theorem of_fine (fine : ∀ x ∈ hs, x.failed = false) : Accounts hs result := by
  intro call is g hmem _
  have hfailed := fine _ hmem
  cases hfailed

/-- What fails in a release is not accounted for. -/
theorem of_release (release : ∀ x ∈ hs, Stage.closing.rank ≤ x.event.stage.rank) : Accounts hs result := by
  intro call is g hmem hrank
  have hle := release _ hmem
  change Stage.closing.rank ≤ (Event.call call).stage.rank at hle
  omega

/-- Uses of the sink are no calls. -/
theorem of_sinkOnly (only : SinkOnly hs) : Accounts hs result :=
  fun _ _ _ hmem _ => nomatch only _ hmem

/-- The call that failed. -/
theorem of_call {call : Call} {is : List Incident} {g : Failure} (h : result = .error (call.failure g)) :
    Accounts [.called call ⟨is, .error g⟩] result := by
  intro call' is' g' hmem _
  cases List.mem_singleton.mp hmem
  exact h

/-- A failure has another type elsewhere. -/
theorem error {β : Type} {f : Failure} (h : Accounts hs (.error f : Except Failure α)) :
    Accounts hs (.error f : Except Failure β) := by
  intro call is g hmem hrank
  exact congrArg Except.error (Except.error.inj (h call is g hmem hrank))

end Accounts

namespace Run

variable {c : Client σ} {rule : Rule}

/-! ## Parts -/

/-- What was added between two states is told by the events. -/
theorem Adds.unique {sink : Sink} {hs gs : List Happening} {run next : Run σ} (h : Adds c sink hs run next)
    (g : Adds c sink gs run next) : hs = gs := by
  have hevents : hs.map Happening.event = gs.map Happening.event := by
    have hboth := h.events.symm.trans g.events
    exact List.reverse_injective (List.append_cancel_right hboth)
  rw [← h.history, hevents, g.history]

theorem openEach_accounts (c : Client σ) (sink : Sink) (topic : String) (start : Offset) (ps : List Int)
    (run : Run σ) : ∃ hs, Adds c sink hs run (openEach c topic start ps run).2
      ∧ Accounts hs (openEach c topic start ps run).1 := by
  induction ps generalizing run with
  | nil => exact ⟨[], .refl c sink run, .of_fine (List.forall_mem_nil _)⟩
  | cons p rest ih =>
    cases hopen : run.openStream c topic p start with
    | mk result next =>
    obtain ⟨is, hcall, -⟩ := ask_called c sink (g := fun _ => .nothing) (fun _ => rfl) hopen
    cases result with
    | error f =>
      have heq : openEach c topic start (p :: rest) run
          = (.error (openFailure topic p start f), next.closeStreams c topic) := by
        simp only [openEach, hopen]
      -- The streams that are open by then are closed, which is a part of no setup.
      obtain ⟨gs, hclose, hstage, -⟩ := closeStreams_passes c sink topic next
      rw [heq]
      refine ⟨_, hcall.toAdds.trans hclose.toAdds, .append (.of_call rfl) (.of_release fun x hx => ?_)⟩
      rw [hstage x hx]
    | ok u =>
      have heq : openEach c topic start (p :: rest) run
          = openEach c topic start rest (next.noteOpened topic p start) := by
        simp only [openEach, hopen]
      obtain ⟨hs, hadds, hrest⟩ := ih (next.noteOpened topic p start)
      have hhead := hcall.quietly (noteOpened_passes c sink topic p start next)
      rw [heq]
      exact ⟨_, hhead.toAdds.trans hadds, .append (.of_fine (List.forall_mem_singleton.mpr rfl)) hrest⟩

theorem openStreams_accounts (c : Client σ) (sink : Sink) (topic : String) (ids : List Int) (start : Offset)
    (target : Option Int) (run : Run σ) : ∃ hs, Adds c sink hs run (run.openStreams c topic ids start target).2
      ∧ Accounts hs (run.openStreams c topic ids start target).1 := by
  unfold openStreams
  cases selected topic ids target with
  | error f => exact ⟨[], .refl c sink run, .of_fine (List.forall_mem_nil _)⟩
  | ok ps =>
    obtain ⟨hs, hadds, haccounts⟩ := openEach_accounts c sink topic start ps run
    dsimp only
    generalize openEach c topic start ps run = outcome at hadds haccounts ⊢
    obtain ⟨result, next⟩ := outcome
    cases result with
    | error f => exact ⟨hs, hadds, haccounts.error⟩
    | ok u =>
      have hnote := note_passes c sink (show (Level.info, streamsOrigin) ∈ ownKinds by simp [ownKinds])
        ("Consuming " ++ next.streams.length.repr ++ " partition(s) of " ++ topic)
        [("topic", .text topic), ("partitions", .list (next.opened.map .int))] next
      have hall := hadds.trans hnote.toAdds
      rw [List.append_nil] at hall
      refine ⟨hs, hall, fun call is g hmem hrank => ?_⟩
      cases haccounts call is g hmem hrank

theorem resolve_accounts (c : Client σ) (sink : Sink) (topic : String) (seconds : Double) (partition : Option Int)
    (run : Run σ) : ∃ hs, Adds c sink hs run (run.resolve c topic seconds partition).2
      ∧ Accounts hs (run.resolve c topic seconds partition).1 := by
  unfold resolve
  cases hfetch : run.fetch c topic seconds with
  | mk result next =>
  obtain ⟨is, hcall, -⟩ := ask_called c sink (g := .metadata) (fun _ => rfl) hfetch
  cases result with
  | error f => exact ⟨_, hcall.toAdds, .of_call rfl⟩
  | ok m =>
    have hfine : ∀ x ∈ [Happening.called (.fetch topic seconds) ⟨is, (Except.ok m).map Yield.metadata⟩],
        x.failed = false := List.forall_mem_singleton.mpr rfl
    dsimp only
    cases m.partitionsFor topic partition with
    | error f => exact ⟨_, hcall.toAdds, .of_fine hfine⟩
    | ok ids =>
      exact ⟨_, (hcall.quietly (note_passes c sink (by simp [ownKinds]) _ _ next)).toAdds, .of_fine hfine⟩

/-- **Connecting** fails with what failed. -/
theorem connect_accounts (c : Client σ) (sink : Sink) (s : Settings) (start : Offset) (run : Run σ) :
    ∃ hs, Adds c sink hs run (run.connect c s start).2 ∧ Accounts hs (run.connect c s start).1 := by
  unfold connect
  cases hstart : run.start c with
  | mk result r₁ =>
  obtain ⟨is, hcall, -⟩ := ask_called c sink (g := fun _ => .nothing) (fun _ => rfl) hstart
  cases result with
  | error f => exact ⟨_, hcall.toAdds, .of_call rfl⟩
  | ok u =>
  have hfine : ∀ x ∈ [Happening.called .start ⟨is, (Except.ok u).map fun _ => Yield.nothing⟩], x.failed = false :=
    List.forall_mem_singleton.mpr rfl
  cases Value.quotient s.connection.metadataTimeout 1000 with
  | error f => exact ⟨_, hcall.toAdds, .of_fine hfine⟩
  | ok seconds =>
  dsimp only
  obtain ⟨hs, hresolve, haccounts⟩ := resolve_accounts c sink s.topic seconds s.partition r₁
  have hboth := hcall.toAdds.trans hresolve
  generalize r₁.resolve c s.topic seconds s.partition = outcome at hboth haccounts ⊢
  obtain ⟨result, r₂⟩ := outcome
  cases result with
  | error f => exact ⟨_, hboth, .append (.of_fine hfine) haccounts.error⟩
  | ok ids =>
    obtain ⟨gs, hopens, hmore⟩ := openStreams_accounts c sink s.topic ids start s.partition r₂
    refine ⟨_, hboth.trans hopens, .append (.append (.of_fine hfine) fun call is g hmem hrank => ?_) hmore⟩
    cases haccounts call is g hmem hrank

/-- What is met beside a poll that fails is no item. -/
theorem finish?_of_unpolled (rule : Rule) (seen : List Item) (is : List Incident) (f g : Failure) :
    rule.finish? seen (Happening.called .poll ⟨is, .error f⟩).cues ≠ some (.broken g) := by
  intro h
  rw [Happening.cues, show (Happening.called .poll ⟨is, .error f⟩).items = [] from rfl, List.map_nil,
    List.append_nil] at h
  cases hstops : (Happening.called .poll ⟨is, .error f⟩).stops with
  | nil =>
    rw [hstops] at h
    cases h
  | cons why others =>
    rw [hstops] at h
    cases h

/-- **The loop** fails with what failed, or with what reading breaks off with. -/
theorem drain_accounts {seen : List Item} {run : Run σ} (h : Reads rule seen run) (hrun : run.standing = .running)
    (fuel : Nat) {result : Except Failure Unit}
    (hresult : (run.drain c rule.sink rule.layout rule.limit fuel).1 = some result) :
    ∃ hs, Adds c rule.sink hs run (run.drain c rule.sink rule.layout rule.limit fuel).2 ∧ Accounts hs result
      ∧ ∀ g, rule.finish? seen (cuesIn hs) = some (.broken g) → result = .error g := by
  -- By induction on the fuel: a turn that does not end the loop hands on the items that it has seen.
  induction fuel generalizing seen run with
  | zero =>
    rw [drain, hrun] at hresult
    cases hresult
  | succ fuel ih =>
    have hturn := turn_turns (c := c) h hrun
    rw [drain, hrun] at hresult ⊢
    simp only [Standing.isRunning, if_true] at hresult ⊢
    generalize run.turn c rule.sink rule.layout rule.limit = outcome at hturn hresult ⊢
    generalize pollReply c run.client = reply at hturn
    obtain ⟨turned, next⟩ := outcome
    obtain ⟨⟨gs, htrans, honly, -⟩, hturned, hstanding, hreads⟩ := hturn
    have hmet : cuesIn (.called .poll reply :: gs) = (Happening.called .poll reply).cues := by
      rw [cuesIn, List.flatMap_cons, ← cuesIn, honly.cuesIn_eq_nil, List.append_nil]
    obtain ⟨is, answer⟩ := reply
    cases answer with
    | error f =>
      -- The poll itself failed.
      cases (show turned = .error f from hturned)
      cases hresult
      refine ⟨_, htrans.toAdds, .append (.of_call rfl) (.of_sinkOnly honly), fun g hg => ?_⟩
      rw [hmet] at hg
      exact absurd hg (finish?_of_unpolled rule seen is f g)
    | ok y =>
      have hpolled : ∀ x ∈ [Happening.called .poll ⟨is, .ok y⟩], x.failed = false :=
        List.forall_mem_singleton.mpr rfl
      have hfine : ∀ {r : Except Failure Unit}, Accounts (.called .poll ⟨is, .ok y⟩ :: gs) r :=
        Accounts.append (.of_fine hpolled) (.of_sinkOnly honly)
      cases hfinish : rule.finish? seen (Happening.called .poll ⟨is, .ok y⟩).cues with
      | none =>
        rw [hfinish] at hturned hstanding hreads
        cases (show turned = .ok () from hturned)
        obtain ⟨hs, hadds, haccounts, hbroken⟩ := ih (hreads (by simp)) hstanding hresult
        refine ⟨_, htrans.toAdds.trans hadds, hfine.append haccounts, fun g hg => hbroken g ?_⟩
        rw [cuesIn_append, hmet, Rule.finish?_append, hfinish] at hg
        rw [Rule.taken_eq_of_finish?_eq_none hfinish]
        exact hg
      | some fin =>
        cases fin with
        | stopped why =>
          have hstopped : next.standing.isRunning = false := by rw [hstanding, hfinish]; rfl
          rw [hfinish] at hturned
          cases (show turned = .ok () from hturned)
          dsimp only at hresult ⊢
          rw [drain_of_stopped hstopped] at hresult ⊢
          cases hresult
          refine ⟨_, htrans.toAdds, hfine, fun g hg => ?_⟩
          rw [hmet, hfinish] at hg
          cases hg
        | broken f =>
          rw [hfinish] at hturned
          cases (show turned = .error f from hturned)
          cases hresult
          refine ⟨_, htrans.toAdds, hfine, fun g hg => ?_⟩
          rw [hmet, hfinish] at hg
          cases hg
          rfl

/-- The loop with its own log records fails with the same. -/
theorem loop_accounts (c : Client σ) (rule : Rule) (run : Run σ) (unread : run.received = 0)
    (unwritten : run.output = .empty) (tracker : run.tracker = .ofPartitions rule.scope rule.single rule.active)
    (fuel : Nat) (result : Except Failure Unit)
    (hresult : (run.loop c rule.sink rule.layout rule.limit fuel).1 = some result) :
    ∃ hs, Adds c rule.sink hs run (run.loop c rule.sink rule.layout rule.limit fuel).2 ∧ Accounts hs result
      ∧ ∀ g, rule.finish? [] (cuesIn hs) = some (.broken g) → result = .error g := by
  obtain ⟨start, hbegin, -, hsame, hend, -⟩ := loop_eq c rule fuel run
  have hreads : Reads rule [] start := (Reads.nil unwritten unread tracker).passes hbegin
  rw [hsame] at hresult
  cases hstanding : start.standing with
  | running =>
    obtain ⟨hs, hadds, haccounts, hbroken⟩ := drain_accounts hreads hstanding fuel hresult
    have hall := (hbegin.toAdds.trans hadds).trans hend.toAdds
    rw [List.nil_append, List.append_nil] at hall
    exact ⟨hs, hall, haccounts, hbroken⟩
  | stopped why =>
    -- A run that was stopped before does not poll.
    rw [drain_of_stopped (by rw [hstanding]; rfl)] at hresult hend
    have hall := hbegin.toAdds.trans hend.toAdds
    exact ⟨[], hall, .of_fine (List.forall_mem_nil _), fun g hg => by cases hg⟩

/-- **Transferring** fails with what failed, or with what reading breaks off with; or the last flush is refused. -/
theorem transfer_accounts (c : Client σ) (sink : Sink) (s : Settings) (fuel : Nat) (opened : List Int) {run : Run σ}
    (unread : run.received = 0) (unwritten : run.output = .empty) (result : Except Failure Unit)
    (hresult : (run.transfer c sink s fuel opened).1 = some result) :
    ∃ hs, Adds c sink hs run (run.transfer c sink s fuel opened).2 ∧ Accounts hs result
      ∧ ∀ g, (s.rule sink opened).finish? [] (cuesIn hs) = some (.broken g) → result = .error g := by
  have hloop := loop_accounts c (s.rule sink opened)
    { run with tracker := .ofPartitions opened s.partition.isSome s.exitOnEnd } unread unwritten rfl fuel
  unfold transfer at hresult ⊢
  simp only [Settings.rule] at hloop hresult ⊢
  generalize Run.loop c sink s.layout s.limit fuel { run with tracker := _ } = outcome at hloop hresult ⊢
  obtain ⟨looped, next⟩ := outcome
  cases looped with
  | none => cases hresult
  | some looped =>
  obtain ⟨hs, hadds, haccounts, hbroken⟩ := hloop looped rfl
  cases looped with
  | error f =>
    cases hresult
    exact ⟨hs, ⟨hadds.events, hadds.history, hadds.sides, hadds.logged⟩, haccounts, hbroken⟩
  | ok u =>
    -- A loop that ended well met no failure, so only the flush decides.
    obtain ⟨hflush, -⟩ := flush_transfers c sink next
    have hall := hadds.trans hflush.toAdds
    refine ⟨_, ⟨hall.events, hall.history, hall.sides, hall.logged⟩, .append ?_ (.of_sinkOnly ?_), fun g hg => ?_⟩
    · intro call is g hmem hrank
      cases haccounts call is g hmem hrank
    · exact List.forall_mem_singleton.mpr rfl
    · rw [cuesIn_append_flushed] at hg
      cases hbroken g hg

/-! ## Errors in the log -/

/-- The latest error in the log. -/
def latestError? (run : Run σ) : Option Entry := run.journal.entries.find? fun e => isError e.level e.origin

/-- **A client that writes no errors** into the log of the run. -/
def Discreet (c : Client σ) : Prop :=
  ∀ call s, ∀ i ∈ (c.respond call s).1.incidents, Happening.isNoteOf isError i = false

theorem latestError?_note {level : Level} {origin : String} (other : isError level origin = false) (message : String)
    (fields : Fields) (run : Run σ) : (run.note level origin message fields).latestError? = run.latestError? := by
  simp [latestError?, note, Journal.write, other]

theorem latestError?_noteFailure {level : Level} {origin : String} (other : isError level origin = false)
    (message : String) (given : Fields) (detailed : Bool) (f : Failure) (run : Run σ) :
    (run.noteFailure level origin message given detailed f).latestError? = run.latestError? := by
  simp [latestError?, noteFailure, Journal.writeFailure, Journal.write, other]

theorem latestError?_halt (reason : String) (run : Run σ) : (run.halt reason).latestError? = run.latestError? := by
  unfold halt
  split
  · exact latestError?_note rfl _ _ _
  · rfl

theorem latestError?_foldl_absorb {is : List Incident} (discreet : ∀ i ∈ is, Happening.isNoteOf isError i = false)
    (run : Run σ) : (is.foldl absorb run).latestError? = run.latestError? := by
  induction is generalizing run with
  | nil => rfl
  | cons i rest ih =>
    obtain ⟨hi, hrest⟩ := List.forall_mem_cons.mp discreet
    rw [List.foldl_cons, ih hrest]
    cases i with
    | stop reason => exact latestError?_halt reason run
    | note level origin message fields => exact latestError?_note hi message fields run

theorem latestError?_ask {call : Call} {f : σ → Reply α × σ} {run : Run σ}
    (discreet : ∀ i ∈ (f run.client).1.incidents, Happening.isNoteOf isError i = false) :
    (run.ask call f).2.latestError? = run.latestError? := latestError?_foldl_absorb discreet _

theorem closeOne_latestError? (discreet : Discreet c) (topic : String) (p : Int) (run : Run σ) :
    (run.closeOne c topic p).latestError? = run.latestError? := by
  have hask : (run.closeStream c topic p).2.latestError? = run.latestError? :=
    latestError?_ask (discreet (.closeStream topic p) run.client)
  unfold closeOne
  generalize run.closeStream c topic p = outcome at hask ⊢
  obtain ⟨result, next⟩ := outcome
  cases result with
  | ok u => exact hask
  | error f => exact (latestError?_noteFailure rfl _ _ _ f next).trans hask

theorem closeEach_latestError? (discreet : Discreet c) (topic : String) (ps : List Int) (run : Run σ) :
    (closeEach c topic ps run).latestError? = run.latestError? := by
  induction ps generalizing run with
  | nil => rfl
  | cons p rest ih => exact (ih (run.closeOne c topic p)).trans (closeOne_latestError? discreet topic p run)

/-- **A release** writes no error. -/
theorem settle_latestError? (discreet : Discreet c) (topic : String) (run : Run σ) :
    (run.settle c topic).latestError? = run.latestError? := by
  unfold settle release
  by_cases hclosed : run.closed = true
  · rw [if_pos hclosed]
  rw [if_neg hclosed]
  have hclose : (closeStreams c topic { run with closed := true }).latestError? = run.latestError? :=
    closeEach_latestError? discreet topic run.streams _
  generalize closeStreams c topic { run with closed := true } = bare at hclose ⊢
  have hstop : (bare.stop c).2.latestError? = run.latestError? :=
    (latestError?_ask (discreet .stop bare.client)).trans hclose
  generalize bare.stop c = outcome at hstop ⊢
  obtain ⟨result, next⟩ := outcome
  cases result with
  | ok u => exact (latestError?_note rfl _ _ next).trans hstop
  | error f => exact (latestError?_noteFailure rfl _ _ _ f next).trans hstop

/-- **The record of a failure that ends a run.** -/
structure Reports (topic : String) (f : Failure) (e : Entry) : Prop where
  level : e.level = Level.error
  message : e.message = fatalMessage topic f
  fields : e.fields = Report.failureFields f [("topic", .text topic)]
  cause : e.cause = .failure f

/-- A failure that ends a run is the latest error in its log. -/
theorem finish_reports (discreet : Discreet c) (topic : String) (k : Clock) (f : Failure) (run : Run σ) :
    ∃ e, (run.finish c topic k (.error f)).2.latestError? = some e ∧ Reports topic f e := by
  have hsummary : (run.finish c topic k (.error f)).2.latestError? = (run.fail topic f).latestError? :=
    (latestError?_note rfl _ _ _).trans (settle_latestError? discreet topic (run.fail topic f))
  rw [hsummary]
  exact ⟨_, List.find?_cons_of_pos rfl, rfl, rfl, rfl, rfl⟩

/-! ## The run -/

/-- Where nothing is transferred, reading does not break off. -/
theorem finishIn_ne_broken (s : Settings) (sink : Sink) {hs : List Happening}
    (h : ∀ x ∈ hs, x.event.stage ≠ .transfer) (g : Failure) : finishIn s sink hs (cuesIn hs) ≠ some (.broken g) := by
  intro heq
  rw [finishIn, ← List.append_nil (cuesIn hs), Rule.finish?_calls [] h] at heq
  cases hstop : stopIn hs with
  | none => rw [hstop] at heq; cases heq
  | some why => rw [hstop] at heq; cases heq

/-- Stops from outside break nothing off. -/
theorem broken_of_or {first later : Option String} {finish : Option Finish} {g : Failure}
    (h : (first.map Finish.stopped).or (finish.or (later.map Finish.stopped)) = some (.broken g)) :
    finish = some (.broken g) := by
  cases first with
  | some why => cases h
  | none =>
    cases finish with
    | some fin => exact h
    | none => cases later <;> cases h

/-- **What a run ends with.** Its result accounts for what failed, and for what reading broke off with; and if it is a
    failure, the latest error in the log is the record of it. -/
theorem consumeFrom_fails (discreet : Discreet c) {sink : Sink} {s : Settings} {k : Clock} {start : Offset}
    {fuel : Nat} {run last : Run σ} (unused : Unused run) {ending : Ending}
    (returns : run.consumeFrom c sink s k start fuel = (some ending, last)) :
    ∃ hs result, Leaves c sink k hs ending run last ∧ ending = endingWith result ∧ Accounts hs result
      ∧ (∀ g, finishIn s sink hs (cuesIn hs) = some (.broken g) → result = .error g)
      ∧ ∀ f, result = .error f → ∃ e, last.latestError? = some e ∧ Reports s.topic f e := by
  obtain ⟨hintro, hkeep⟩ := announce_passes c sink s start run
  unfold consumeFrom body at returns
  generalize (run.introduce s).announce s start = begun at hintro hkeep returns
  have hconnect := connect_accounts c sink s start begun
  rcases connect_connects c sink s start begun (hkeep.trans unused.streams) with
    ⟨opened, hs, hok, hpass, hconnected, hstreams⟩ | ⟨f, hs, gs, herr, hpass, hthwarted, hstreams⟩
  · have hbody := hintro.trans hpass
    rw [List.nil_append] at hbody
    generalize begun.connect c s start = connected at hok hbody returns
    obtain ⟨result, mid⟩ := connected
    cases hok
    have hunread : mid.received = 0 := hbody.received.trans unused.received
    have hunwritten : mid.output = .empty := hbody.output.trans unused.output
    have htransfer := transfer_accounts c sink s fuel opened hunread hunwritten
    obtain ⟨ls, htransferred, -⟩ := transfer_transferred c sink s fuel opened mid hunread hunwritten
    dsimp only at returns
    generalize mid.transfer c sink s fuel opened = outcome at htransfer htransferred returns
    obtain ⟨result, next⟩ := outcome
    cases result with
    | none => cases returns
    | some result =>
    obtain ⟨ls', hadds, haccounts, hbroken⟩ := htransfer result rfl
    obtain rfl := hadds.unique htransferred.transfers.toAdds
    obtain ⟨gs, reply, hending, -, -, hstage, -, hleaves⟩ := finish_leaves c s.topic k result
      (hbody.toAdds.trans hadds) (htransferred.transfers.closed.trans (hbody.closed.trans unused.closed))
    dsimp only at returns
    cases returns
    rw [← hending] at hleaves
    have hrelease := release_rank hstage reply
    refine ⟨_, result, hleaves, hending, ?_, fun g hg => ?_, fun f hf => ?_⟩
    · exact .append (.append (.of_fine hconnected.fine) haccounts) (.of_release hrelease)
    · rw [hconnected.finishIn_eq htransferred.transfers.stage hrelease] at hg
      exact hbroken g (broken_of_or hg)
    · subst hf
      exact finish_reports discreet s.topic k f next
  · have hbody := hintro.trans hpass
    rw [List.nil_append] at hbody
    generalize begun.connect c s start = connected at herr hbody hconnect returns
    obtain ⟨result, mid⟩ := connected
    cases herr
    -- Two lemmas tell of the same stretch, so they tell of the same history.
    obtain ⟨hs', hadds, haccounts⟩ := hconnect
    obtain rfl := (hintro.toAdds.trans hadds).unique hbody.toAdds
    obtain ⟨rs, reply, hending, -, -, hstage, -, hleaves⟩ := finish_leaves c s.topic k (.error f)
      hbody.toAdds (hbody.closed.trans unused.closed)
    dsimp only at returns
    cases returns
    rw [← hending] at hleaves
    have hrelease := release_rank hstage reply
    refine ⟨_, .error f, hleaves, hending, .append haccounts.error (.of_release hrelease), fun g hg => ?_,
      fun f' hf => ?_⟩
    · refine absurd hg (finishIn_ne_broken s sink (List.forall_mem_append.mpr ⟨List.forall_mem_append.mpr
        ⟨hthwarted.setup.ne_transfer (by decide), hthwarted.closing.ne_transfer (by decide)⟩, fun x hx => ?_⟩) g)
      exact stage_ne_of_rank (hrelease x hx) (by decide)
    · cases hf
      exact finish_reports discreet s.topic k f mid

/-- **A run that has used up its fuel** has opened its streams, and nothing that it met was a reason to stop reading. -/
theorem consumeFrom_lasts {sink : Sink} {s : Settings} {k : Clock} {start : Offset} {fuel : Nat} {run last : Run σ}
    (unused : Unused run) (lasts : run.consumeFrom c sink s k start fuel = (none, last)) :
    ∃ opened hs ls, Adds c sink (hs ++ ls) run last ∧ Connected s start hs opened ∧ AllAt .transfer ls
      ∧ (s.rule sink opened).finish? [] (cuesIn ls) = none := by
  obtain ⟨hintro, hkeep⟩ := announce_passes c sink s start run
  unfold consumeFrom body at lasts
  generalize (run.introduce s).announce s start = begun at hintro hkeep lasts
  rcases connect_connects c sink s start begun (hkeep.trans unused.streams) with
    ⟨opened, hs, hok, hpass, hconnected, -⟩ | ⟨f, hs, gs, herr, -⟩
  · have hbody := hintro.trans hpass
    rw [List.nil_append] at hbody
    generalize begun.connect c s start = connected at hok hbody lasts
    obtain ⟨result, mid⟩ := connected
    cases hok
    obtain ⟨ls, htransferred, -⟩ := transfer_transferred c sink s fuel opened mid
      (hbody.received.trans unused.received) (hbody.output.trans unused.output)
    dsimp only at lasts
    generalize mid.transfer c sink s fuel opened = outcome at htransferred lasts
    obtain ⟨result, next⟩ := outcome
    cases result with
    | some result => cases lasts
    | none =>
      cases lasts
      obtain ⟨-, hnone, -⟩ := htransferred.result
      exact ⟨opened, hs, ls, hbody.toAdds.trans htransferred.transfers.toAdds, hconnected,
        htransferred.transfers.stage, hnone⟩
  · generalize begun.connect c s start = connected at herr lasts
    obtain ⟨result, mid⟩ := connected
    cases herr
    cases lasts

/-! ## Runs that only an item can break off -/

/-- **A run that has come to its loop**, and in whose loop no poll and no use of the sink fails, fails only with an
    item. -/
theorem Goes.fatal_iff_of_fine {s : Settings} {start : Offset} {sink : Sink} {fuel : Nat} {st last : Standing}
    {hs : List Happening} {ending : Ending} {output : Output}
    (h : Goes c s start sink fuel st hs ending last output) (began : ∃ x ∈ hs, x.event.stage = .transfer)
    (fine : ∀ x ∈ hs, x.event.stage = .transfer → x.failed = false) :
    ending = .fatal ↔ st = .running ∧ ∃ g, finishIn s sink hs (cuesIn hs) = some (.broken g) := by
  rw [h.fatal_iff]
  refine ⟨fun himpeded => ?_, fun hbroken => .inr (.inr (.inr hbroken))⟩
  obtain ⟨y, hy, hstage⟩ := began
  cases h with
  | @thwarted hs gs reply thwarted =>
    rcases List.mem_append.mp hy with hy | hy
    · rcases List.mem_append.mp hy with hy | hy
      · rw [thwarted.setup y hy] at hstage
        cases hstage
      · rw [thwarted.closing y hy] at hstage
        cases hstage
    · rw [List.mem_singleton.mp hy] at hstage
      cases hstage
  | @through hs ls gs opened reply mid next result connected began transferred flushed closing closed =>
    have htransfer := transferred.transfers.stage
    have hrank := release_rank closing reply
    rcases himpeded with ⟨x, hx, hbad, hlow⟩ | ⟨f, hf⟩ | ⟨m, hm, f, hf⟩ | hbroken
    · -- What failed is no part of the setup, none of the loop, and none of the release.
      rcases List.mem_append.mp hx with hin | hin
      · have hfine : x.failed = false := (List.mem_append.mp hin).elim (connected.fine x)
          fun hmem => fine x hx (htransfer x hmem)
        rw [hfine] at hbad
        cases hbad
      · have hle := hrank x hin
        omega
    · obtain ⟨seconds, htime, -⟩ := connected.events
      rw [htime] at hf
      cases hf
    · obtain ⟨m', ids, hmetadata, hids, -⟩ := connected.chosen_of_parts htransfer closing reply
      rw [hmetadata, List.mem_singleton] at hm
      rw [hm, hids] at hf
      cases hf
    · exact hbroken

end Run

/-- What a run met before an item of a batch: everything before the poll, the stops beside it, and the items before
    this one. -/
def cuesBefore (before : List Happening) (reply : Reply Yield) (earlier : List Item) : List Cue :=
  cuesIn before ++ (Happening.called .poll reply).stops.map .stop ++ earlier.map .item

/-- **Reading ends before a failure or with it.** -/
theorem finishIn_of_failed (s : Settings) (sink : Sink) {hs before after : List Happening} {reply : Reply Yield}
    {earlier : List Item} {topic : String} {p : Option Int} {f : Failure}
    (parts : hs = before ++ .called .poll reply :: after)
    (brought : reply.result = .ok (.items (earlier ++ [.failed topic p f]))) :
    finishIn s sink hs (cuesIn hs)
      = (finishIn s sink hs (cuesBefore before reply earlier)).or (some (.broken (f.ofStream topic p []))) := by
  have hitems : (Happening.called .poll reply).items = earlier ++ [.failed topic p f] := by
    obtain ⟨is, result⟩ := reply
    cases brought
    rfl
  have hcues : cuesIn hs = cuesBefore before reply earlier ++ .item (.failed topic p f) :: cuesIn after := by
    rw [parts, cuesIn_append, cuesIn, cuesIn, List.flatMap_cons, Happening.cues, hitems, cuesBefore, cuesIn, cuesIn]
    simp
  rw [finishIn, hcues, Rule.finish?_append, Rule.finish?_item]
  rfl

/-- An item that is met was brought by a poll. -/
theorem mem_cuesIn_item {hs : List Happening} {i : Item} (h : .item i ∈ cuesIn hs) :
    ∃ reply items, .called .poll reply ∈ hs ∧ reply.result = .ok (.items items) ∧ i ∈ items := by
  obtain ⟨x, hx, hmem⟩ := List.mem_flatMap.mp h
  rcases List.mem_append.mp hmem with hstop | hitem
  · obtain ⟨why, -, hne⟩ := List.mem_map.mp hstop
    cases hne
  · obtain ⟨j, hj, heq⟩ := List.mem_map.mp hitem
    cases heq
    match x with
    | .called .poll ⟨is, .ok (.items items)⟩ => exact ⟨_, items, hx, rfl, hj⟩
    | .called .poll ⟨_, .ok (.metadata _)⟩ | .called .poll ⟨_, .ok .nothing⟩ | .called .poll ⟨_, .error _⟩
    | .called .start _ | .called .stop _ | .called (.fetch ..) _ | .called (.openStream ..) _
    | .called (.closeStream ..) _ | .wrote .. | .flushed _ => cases hj

/-- **With a sink that works**, reading breaks off only with a failure from the queue, or with what has no place in
    it. -/
theorem Rule.broken_of_works {rule : Rule} (works : rule.Works) {seen : List Item} {cues : List Cue} {g : Failure}
    (h : rule.finish? seen cues = some (.broken g)) :
    (∃ topic p f, .item (.failed topic p f) ∈ cues ∧ g = f.ofStream topic p []) ∨ ∃ v, .item (.alien v) ∈ cues := by
  induction cues generalizing seen with
  | nil => cases h
  | cons x rest ih =>
    cases x with
    | stop reason => cases h
    | item i =>
      rw [finish?_item] at h
      cases hverdict : rule.verdict? seen i with
      | none =>
        rw [hverdict] at h
        rcases ih h with ⟨topic, p, f, hmem, hg⟩ | ⟨v, hmem⟩
        · exact .inl ⟨topic, p, f, List.mem_cons_of_mem _ hmem, hg⟩
        · exact .inr ⟨v, List.mem_cons_of_mem _ hmem⟩
      | some fin =>
        rw [hverdict] at h
        cases h
        cases i with
        | record r =>
          rw [verdict?_of_taken (works _ r)] at hverdict
          split at hverdict
          · simp at hverdict
          · cases hverdict
        | ended topic p o =>
          rw [verdict?_ended] at hverdict
          split at hverdict
          · simp at hverdict
          · cases hverdict
        | failed topic p f =>
          cases hverdict
          exact .inl ⟨topic, p, f, List.mem_cons_self, rfl⟩
        | alien v => exact .inr ⟨v, List.mem_cons_self⟩

/-- **A sink that works** takes every write and every flush. -/
structure Sink.Works (sink : Sink) : Prop where
  takes : ∀ number bytes, sink.takes number bytes = true
  flushes : ∀ number, sink.flushing number = none

/-- A rule with such a sink refuses no record. -/
theorem Sink.Works.rule {sink : Sink} (works : sink.Works) (s : Settings) (opened : List Int) :
    (s.rule sink opened).Works := by
  intro number r
  have htakes := works.takes number ((s.rule sink opened).layout.render r)
  rw [Sink.takes_eq _ _ _ r, Option.isNone_iff_eq_none] at htakes
  rw [Rule.refusal?, show (s.rule sink opened).sink = sink from rfl, htakes, works.flushes number]
  simp

/-- Such a sink fails at no time. -/
theorem Sink.Works.fine {sink : Sink} (works : sink.Works) (c : Client σ) (es : List Event) (a : Sides σ) :
    ∀ x ∈ a.history c sink es, x.isUse = true → x.failed = false := by
  induction es generalizing a with
  | nil => exact List.forall_mem_nil _
  | cons e rest ih =>
    refine List.forall_mem_cons.mpr ⟨fun huse => ?_, ih _⟩
    cases e with
    | call call => cases huse
    | write bytes => exact congrArg not (works.takes a.writes bytes)
    | flush =>
      show (!(sink.flushing a.flushes).isNone) = false
      rw [works.flushes a.flushes]
      rfl

/-- A client that writes no errors adds none to the log. -/
theorem Run.Discreet.notedIn_eq_zero {c : Client σ} (discreet : Discreet c) (sink : Sink) (es : List Event)
    (a : Sides σ) : notedIn isError (a.history c sink es) = 0 := by
  induction es generalizing a with
  | nil => rfl
  | cons e rest ih =>
    have hone : ((a.meet c sink e).1).noted isError = 0 := by
      cases e with
      | call call =>
        refine List.countP_eq_zero.mpr fun i hi => ?_
        rw [discreet call a.client i hi]
        exact Bool.false_ne_true
      | write bytes => rfl
      | flush => rfl
    rw [Sides.history, notedIn, List.map_cons, List.sum_cons, hone, ← notedIn, ih]

end TopicReader
