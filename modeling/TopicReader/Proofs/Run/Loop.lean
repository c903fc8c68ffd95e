import TopicReader.Proofs.Run.Reading

/-!
# `Proofs.Run.Loop` — the loop does what the reference says

`Proofs.Run.Reading` says how reading ends, item by item. Here each function of the loop is shown to do just
that: what it does with an item is the verdict on it, what it does with a batch is the first verdict in it, and
what it does with all batches is the first finish in everything it met.

## Contents
- **Stretches of the loop.** `Transfers`: happenings that poll or use the sink.
- **One item.** `Deals`, `dispatch_deals`, from one lemma for records and one for ends.
- **A batch.** `dispatchAll_deals`.
- **The loop.** `turn_turns` for one poll, `Drains` and `drain_drains` for all of them.
-/

namespace TopicReader.Run

variable {σ : Type} {c : Client σ} {rule : Rule}

/-- **A stretch of the loop** adds polls and uses of the sink, and leaves the streams alone. -/
structure Transfers (c : Client σ) (sink : Sink) (hs : List Happening) (run run' : Run σ) : Prop
    extends Adds c sink hs run run' where
  stage : AllAt .transfer hs
  streams : run'.streams = run.streams
  closed : run'.closed = run.closed

theorem Transfers.refl (c : Client σ) (sink : Sink) (run : Run σ) : Transfers c sink [] run run :=
  ⟨.refl c sink run, .nil, rfl, rfl⟩

theorem Transfers.trans {sink : Sink} {hs gs : List Happening} {r₁ r₂ r₃ : Run σ}
    (h : Transfers c sink hs r₁ r₂) (g : Transfers c sink gs r₂ r₃) : Transfers c sink (hs ++ gs) r₁ r₃ :=
  ⟨h.toAdds.trans g.toAdds, h.stage.append g.stage, g.streams.trans h.streams, g.closed.trans h.closed⟩

theorem halt_transfers (sink : Sink) (reason : String) (run : Run σ) :
    Transfers c sink [] run (run.halt reason) := by
  rw [halt_eq]
  exact ⟨⟨rfl, rfl, rfl, fun _ hk => logged_halt hk reason run⟩, .nil, rfl, rfl⟩

theorem note_transfers {level : Level} {origin : String} (own : (level, origin) ∈ ownKinds) (sink : Sink)
    (message : String) (fields : Fields) (run : Run σ) :
    Transfers c sink [] run (run.note level origin message fields) :=
  ⟨(note_passes c sink own message fields run).toAdds, .nil, rfl, rfl⟩

/-! ## What dealing with items comes to -/

/-- **Items were dealt with**, from a run that was going on: reading goes on after them, or it ended with the
    last one. Of a record that the sink refused nothing is known; all others are read. -/
structure Deals (c : Client σ) (rule : Rule) (seen items : List Item) (finish : Option Finish) (run : Run σ)
    (outcome : Except Failure Unit × Run σ) : Prop where
  uses : ∃ hs, Transfers c rule.sink hs run outcome.2 ∧ SinkOnly hs
    ∧ ((∀ f, finish ≠ some (.broken f)) → ∀ h ∈ hs, h.failed = false)
  result : outcome.1 = Finish.resultOf finish
  standing : outcome.2.standing = Standing.running.after (finish.bind Finish.reason?)
  reads : ((∃ f, finish = some (.broken f)) → rule.Works) → Reads rule (seen ++ items) outcome.2

/-- Items that follow each other. -/
theorem Deals.trans {seen items more : List Item} {finish : Option Finish} {run next : Run σ}
    {outcome : Except Failure Unit × Run σ} (h : Deals c rule seen items none run (.ok (), next))
    (g : Deals c rule (seen ++ items) more finish next outcome) :
    Deals c rule seen (items ++ more) finish run outcome := by
  obtain ⟨hs, htrans, honly, hfine⟩ := h.uses
  obtain ⟨gs, gtrans, gonly, gfine⟩ := g.uses
  refine ⟨⟨hs ++ gs, htrans.trans gtrans, honly.append gonly, fun hne => ?_⟩, g.result, g.standing, ?_⟩
  · exact List.forall_mem_append.mpr ⟨hfine (by simp), gfine hne⟩
  · rw [← List.append_assoc]; exact g.reads

/-! ## Records -/

/-- Writing a record happens at no position of the log, since it writes no log record. -/
theorem atPosition_format (topic : String) (p o : Int) (sink : Sink) (l : Layout) (r : Record)
    (run : Run σ) : run.atPosition topic p o (format sink l r) = run.format sink l r := rfl

theorem written_sinkOnly (rule : Rule) (number : Nat) (r : Record) : SinkOnly (rule.written number r) := by
  intro x hx
  unfold Rule.written at hx
  split at hx
  · rw [List.mem_cons, List.mem_singleton] at hx
    rcases hx with rfl | rfl <;> rfl
  · rw [List.mem_singleton] at hx
    rw [hx]; rfl

/-- Without a refusal nothing fails. -/
theorem written_fine {rule : Rule} {number : Nat} {r : Record} (h : rule.refusal? number r = none) :
    ∀ x ∈ rule.written number r, x.failed = false := by
  obtain ⟨hwrite, hflush⟩ := Option.or_eq_none_iff.mp h
  have htakes : rule.sink.takes number (rule.layout.render r) = true := by
    rw [Sink.takes_eq _ _ _ r, hwrite]; rfl
  intro x hx
  by_cases hu : rule.layout.unbuffered = true
  · rw [if_pos hu, Option.map_eq_none_iff] at hflush
    simp only [Rule.written, htakes, hu, hflush, Bool.and_self, if_true, List.mem_cons, List.not_mem_nil,
      or_false] at hx
    rcases hx with rfl | rfl <;> rfl
  · simp only [Rule.written, htakes, hu, Bool.and_false, Bool.false_eq_true, if_false,
      List.mem_singleton] at hx
    rw [hx]; rfl

/-- Counting a record stops the run at the limit, and adds nothing to its history. -/
theorem count_counts (rule : Rule) (run : Run σ) :
    Transfers c rule.sink [] run (run.count rule.limit)
      ∧ (run.count rule.limit).output = run.output ∧ (run.count rule.limit).tracker = run.tracker
      ∧ (run.count rule.limit).received = run.received + 1
      ∧ (run.count rule.limit).standing =
          if rule.isFull (run.received + 1) then run.standing.stop "limit" else run.standing := by
  have hone : Transfers c rule.sink [] run { run with received := run.received + 1 } :=
    ⟨⟨rfl, rfl, rfl, fun _ _ => rfl⟩, .nil, rfl, rfl⟩
  unfold count Rule.isFull
  cases rule.limit with
  | none => exact ⟨hone, rfl, rfl, rfl, rfl⟩
  | some n =>
    by_cases hn : n ≤ run.received + 1
    · simp only [hn, if_true, decide_true]
      refine ⟨?_, ?_, ?_, ?_, ?_⟩
      · exact (hone.trans (note_transfers (by simp [ownKinds]) _ _ _ _)).trans (halt_transfers _ _ _)
      all_goals rw [halt_eq]; rfl
    · simp only [hn, if_false, decide_false, Bool.false_eq_true]
      exact ⟨hone, trivial, trivial, trivial, trivial⟩

/-- **A record is dealt with** as the rule has it: it is written, and then it counts. -/
theorem takeRecord_deals {seen : List Item} {run : Run σ} (h : Reads rule seen run)
    (hrun : run.standing = .running) (r : Record) :
    Deals c rule seen [.record r] (rule.verdict? seen (.record r)) run
      (run.takeRecord rule.sink rule.layout rule.limit r) := by
  obtain ⟨hadds, hresult, hout⟩ := format_writes (c := c) h r
  have hwrites : Transfers c rule.sink (rule.written (recordsIn seen).length r) run
      (run.format rule.sink rule.layout r).2 := ⟨hadds, (written_sinkOnly _ _ _).stage, rfl, rfl⟩
  have hstill : (run.format rule.sink rule.layout r).2.standing = .running := hrun
  have hnumber : (run.format rule.sink rule.layout r).2.received = (recordsIn seen).length := h.received
  have htracker : (run.format rule.sink rule.layout r).2.tracker = run.tracker := rfl
  unfold takeRecord
  rw [atPosition_format]
  generalize run.format rule.sink rule.layout r = outcome at hresult hout hwrites hstill hnumber htracker ⊢
  obtain ⟨result, next⟩ := outcome
  cases hrefusal : rule.refusal? (recordsIn seen).length r with
  | some f =>
    rw [hrefusal] at hresult
    cases hresult
    rw [Rule.verdict?_of_refused hrefusal]
    -- A sink that works refuses nothing, so what was accepted need not be told here.
    refine ⟨⟨_, hwrites, written_sinkOnly _ _ _, fun hne => absurd rfl (hne f)⟩, rfl, hstill, fun hworks => ?_⟩
    exact absurd hrefusal (by simp [hworks ⟨f, rfl⟩ _ _])
  | none =>
    rw [hrefusal] at hresult
    cases hresult
    rw [Rule.verdict?_of_taken hrefusal]
    -- The write was taken; whether reading ends is now a matter of the limit alone.
    obtain ⟨hcount, houtput, hsame, hreceived, hstanding⟩ := count_counts (c := c) rule next
    rw [hnumber] at hreceived hstanding
    rw [hstill] at hstanding
    have hboth := hwrites.trans hcount
    rw [List.append_nil] at hboth
    refine ⟨⟨_, hboth, written_sinkOnly _ _ _, fun _ => written_fine hrefusal⟩, ?_, ?_, fun _ => ⟨?_, ?_, ?_⟩⟩
    · by_cases hfull : rule.isFull ((recordsIn seen).length + 1) = true
      · rw [if_pos hfull]; rfl
      · rw [if_neg hfull]; rfl
    · by_cases hfull : rule.isFull ((recordsIn seen).length + 1) = true
      · rw [if_pos hfull] at hstanding ⊢
        exact hstanding
      · rw [if_neg hfull] at hstanding ⊢
        exact hstanding
    · rw [houtput]
      exact hout hrefusal
    · rw [hreceived, recordsIn_append, List.length_append]
      rfl
    · rw [hsame, htracker, endsIn_append, show endsIn [.record r] = ∅ from rfl, Finset.union_empty]
      exact h.tracker

/-! ## Ends -/

/-- What becomes of an end is written to the log as a record of one of the run's own kinds. -/
theorem logged_write {kind : Level → String → Bool} (hk : Spares kind) (notice : EndNotice) (j : Journal)
    (topic : String) (p o : Int) :
    (notice.write j topic p o).entries.countP (fun e => kind e.level e.origin)
      = j.entries.countP fun e => kind e.level e.origin := by
  have hwarn := hk (Level.warning, EndNotice.origin) (by simp [ownKinds])
  have hdebug := hk (Level.debug, EndNotice.origin) (by simp [ownKinds])
  have hinfo := hk (Level.info, EndNotice.origin) (by simp [ownKinds])
  cases notice <;> simp_all [EndNotice.write, Journal.write]

/-- An end is observed at its position in the log. -/
theorem atPosition_observe (topic : String) (p o : Int) (run : Run σ) :
    (run.atPosition topic p o (observe topic p o)).2 = { run with
      tracker := (run.tracker.observe p).2
      standing := if (run.tracker.observe p).1.isOver then run.standing.stop "eof" else run.standing
      journal := (run.atPosition topic p o (observe topic p o)).2.journal } := by
  unfold atPosition
  dsimp only
  rw [observe_eq]

theorem logged_observe {kind : Level → String → Bool} (hk : Spares kind) (topic : String) (p o : Int)
    (run : Run σ) : (run.atPosition topic p o (observe topic p o)).2.logged kind = run.logged kind := by
  have hwrite := logged_write hk (run.tracker.observe p).1
    { run.journal with position := run.journal.position.enter (some topic) (some p) (some o) } topic p o
  unfold atPosition observe
  by_cases hover : (run.tracker.observe p).1.isOver = true
  · simp only [hover, if_true]
    exact (logged_halt hk "eof" _).trans hwrite
  · simp only [hover, if_false, Bool.false_eq_true]
    exact hwrite

theorem observe_transfers (sink : Sink) (topic : String) (p o : Int) (run : Run σ) :
    Transfers c sink [] run (run.atPosition topic p o (observe topic p o)).2 := by
  have heq := atPosition_observe topic p o run
  have hlogged : ∀ kind, Spares kind →
      (run.atPosition topic p o (observe topic p o)).2.logged kind = run.logged kind :=
    fun _ hk => logged_observe hk topic p o run
  generalize (run.atPosition topic p o (observe topic p o)).2 = next at heq hlogged
  rw [heq] at hlogged ⊢
  exact ⟨⟨rfl, rfl, rfl, hlogged⟩, .nil, rfl, rfl⟩

/-- **An end is dealt with** as the rule has it. -/
theorem observe_deals {seen : List Item} {run : Run σ} (h : Reads rule seen run)
    (hrun : run.standing = .running) (topic : String) (p o : Int) :
    Deals c rule seen [.ended topic p o] (rule.verdict? seen (.ended topic p o)) run
      (.ok (), (run.atPosition topic p o (observe topic p o)).2) := by
  have hinsert : endsIn (seen ++ [.ended topic p o]) = insert p (endsIn seen) := by
    rw [endsIn_append, show endsIn [.ended topic p o] = {p} from rfl, Finset.union_comm]; rfl
  have hover := EndTracker.observe_isOver h.tracker p
  have htracker := EndTracker.observe_holds h.tracker p
  rw [← hinsert] at hover htracker
  have heq := atPosition_observe topic p o run
  have htransfers := observe_transfers (c := c) rule.sink topic p o run
  generalize (run.atPosition topic p o (observe topic p o)).2 = next at heq htransfers ⊢
  rw [hrun] at heq
  rw [Rule.verdict?_ended]
  refine ⟨⟨[], htransfers, .nil, fun _ => List.forall_mem_nil _⟩,
    ?_, ?_, fun _ => ⟨?_, ?_, ?_⟩⟩
  · split <;> rfl
  · rw [heq]
    unfold Rule.ends
    by_cases hlast : (run.tracker.observe p).1.isOver = true
    · simp only [if_pos hlast, if_pos (hover.mp hlast)]; rfl
    · simp only [if_neg hlast, if_neg (fun hgoal => hlast (hover.mpr hgoal))]; rfl
  · rw [heq, Rule.output, recordsIn_append, show recordsIn [.ended topic p o] = [] from rfl, List.append_nil]
    exact h.output
  · rw [heq, recordsIn_append, show recordsIn [.ended topic p o] = [] from rfl, List.append_nil]
    exact h.received
  · rw [heq]
    exact htracker

/-! ## Items and batches -/

/-- Nothing is done but to fail. -/
theorem Deals.of_error {seen : List Item} {run : Run σ} (h : Reads rule seen run)
    (hrun : run.standing = .running) (f : Failure) {item : Item} (records : recordsIn [item] = [])
    (ends : endsIn [item] = ∅) : Deals c rule seen [item] (some (.broken f)) run (.error f, run) where
  uses := ⟨[], .refl c rule.sink run, .nil, fun _ => List.forall_mem_nil _⟩
  result := rfl
  standing := hrun
  reads _ := h.append records ends

/-- **One item** is dealt with as the verdict on it says. -/
theorem dispatch_deals {seen : List Item} {run : Run σ} (h : Reads rule seen run)
    (hrun : run.standing = .running) (item : Item) :
    Deals c rule seen [item] (rule.verdict? seen item) run
      (run.dispatch rule.sink rule.layout rule.limit item) := by
  cases item with
  | record r => exact takeRecord_deals h hrun r
  | ended topic p o => exact observe_deals h hrun topic p o
  | failed topic p f => exact Deals.of_error h hrun _ rfl rfl
  | alien v => exact Deals.of_error h hrun _ rfl rfl

theorem dispatchAll_of_stopped {run : Run σ} (h : run.standing.isRunning = false) (sink : Sink) (l : Layout)
    (limit : Limit) (items : List Item) : run.dispatchAll sink l limit items = (.ok (), run) := by
  cases items with
  | nil => rfl
  | cons item rest => rw [dispatchAll, h]; rfl

/-- **A batch** is dealt with up to the first item that reading ends with; the rest is dropped. -/
theorem dispatchAll_deals {seen : List Item} {run : Run σ} (h : Reads rule seen run)
    (hrun : run.standing = .running) (items : List Item) :
    Deals c rule seen (rule.taken seen (items.map .item)) (rule.finish? seen (items.map .item)) run
      (run.dispatchAll rule.sink rule.layout rule.limit items) := by
  induction items generalizing seen run with
  | nil =>
    refine ⟨⟨[], .refl c rule.sink run, .nil, fun _ => List.forall_mem_nil _⟩, rfl, hrun, fun _ => ?_⟩
    rw [List.map_nil, Rule.taken, List.append_nil]; exact h
  | cons item rest ih =>
    have hone := dispatch_deals (c := c) h hrun item
    rw [List.map_cons, Rule.taken, Rule.finish?, dispatchAll, hrun]
    generalize run.dispatch rule.sink rule.layout rule.limit item = outcome at hone ⊢
    obtain ⟨result, next⟩ := outcome
    cases hverdict : rule.verdict? seen item with
    | none =>
      rw [hverdict] at hone
      cases (show result = .ok () from hone.result)
      exact hone.trans (ih (hone.reads (by simp)) hone.standing)
    | some fin =>
      rw [hverdict] at hone
      cases fin with
      | stopped reason =>
        cases (show result = .ok () from hone.result)
        have hstopped : next.standing.isRunning = false := by rw [show next.standing = _ from hone.standing]; rfl
        simp only [Standing.isRunning, if_true, dispatchAll_of_stopped hstopped]
        exact hone
      | broken f =>
        cases (show result = .error f from hone.result)
        exact hone

/-! ## The loop -/

/-- **A turn** polls once and deals with what came: reading ends with a stop beside the poll, with a poll that
    fails, or with an item of the batch. -/
structure Turns (c : Client σ) (rule : Rule) (seen : List Item) (run : Run σ)
    (outcome : Except Failure Unit × Run σ) (reply : Reply Yield) (cues : List Cue) : Prop where
  uses : ∃ hs, Transfers c rule.sink (.called .poll reply :: hs) run outcome.2 ∧ SinkOnly hs
    ∧ ((∀ f, rule.finish? seen cues ≠ some (.broken f)) → ∀ h ∈ hs, h.failed = false)
  result : outcome.1 = match reply.result with
    | .ok _ => Finish.resultOf (rule.finish? seen cues)
    | .error f => .error f
  standing : outcome.2.standing = Standing.running.after ((rule.finish? seen cues).bind Finish.reason?)
  reads : ((∃ f, rule.finish? seen cues = some (.broken f)) → rule.Works) →
    Reads rule (seen ++ rule.taken seen cues) outcome.2

/-- The reply of a client to a poll. -/
def pollReply (c : Client σ) (s : σ) : Reply Yield := (c.poll pollWait s).1.map .items

/-- A stop beside the poll comes first: no item is dealt with, and reading ends with that stop. -/
theorem Turns.of_stop {seen : List Item} {run next : Run σ} {reply : Reply Yield} {result : Except Failure Unit}
    {why : String} (one : Transfers c rule.sink [.called .poll reply] run next) (reads : Reads rule seen next)
    (stopped : next.standing = .stopped why)
    (same : result = match reply.result with
      | .ok _ => .ok ()
      | .error f => .error f)
    (others : List String) (rest : List Cue) :
    Turns c rule seen run (result, next) reply ((why :: others).map .stop ++ rest) where
  uses := ⟨[], one, .nil, fun _ => List.forall_mem_nil _⟩
  result := by
    rw [same]
    cases reply.result <;> rfl
  standing := stopped
  reads := by
    intro _
    rw [show rule.taken seen ((why :: others).map .stop ++ rest) = [] from rfl, List.append_nil]
    exact reads

/-- **A turn** does as the reference says. -/
theorem turn_turns {seen : List Item} {run : Run σ} (h : Reads rule seen run)
    (hrun : run.standing = .running) :
    Turns c rule seen run (run.turn c rule.sink rule.layout rule.limit) (pollReply c run.client)
      (Happening.called .poll (pollReply c run.client)).cues := by
  have hpass := ask_passes c rule.sink .poll (f := c.poll pollWait) (g := .items) (fun _ => rfl) run
  have hstreams := ask_streams .poll (c.poll pollWait) run
  have hresult : (pollReply c run.client).result = (run.poll c pollWait).1.map .items := rfl
  unfold turn
  change Passes c rule.sink [.called .poll (pollReply c run.client)] run (run.poll c pollWait).2 at hpass
  change (run.poll c pollWait).2.streams = run.streams at hstreams
  generalize pollReply c run.client = reply at hpass hresult ⊢
  generalize run.poll c pollWait = outcome at hpass hstreams hresult ⊢
  obtain ⟨result, next⟩ := outcome
  have hone : Transfers c rule.sink [.called .poll reply] run next :=
    ⟨hpass.toAdds, .one rfl, hstreams, hpass.closed⟩
  have hreads : Reads rule seen next := h.passes hpass
  have hstanding : next.standing = Standing.running.after (Happening.called .poll reply).stops.head? := by
    rw [← hrun, hpass.standing, stopIn, List.flatMap_cons, List.flatMap_nil, List.append_nil]
  rw [Happening.cues]
  -- A stop beside the poll decides before its items are looked at.
  cases hstops : (Happening.called .poll reply).stops with
  | cons why others =>
    rw [hstops] at hstanding
    cases result with
    | ok items =>
      show Turns c rule seen run (next.dispatchAll rule.sink rule.layout rule.limit items) _ _
      rw [dispatchAll_of_stopped (by rw [hstanding]; rfl)]
      exact .of_stop hone hreads hstanding (by rw [hresult]; rfl) others _
    | error f => exact .of_stop hone hreads hstanding (by rw [hresult]; rfl) others _
  | nil =>
    rw [hstops] at hstanding
    obtain ⟨is, result'⟩ := reply
    cases hresult
    cases result with
    | ok items =>
      obtain ⟨⟨hs, htrans, honly, hfine⟩, hres, hstand, hread⟩ := dispatchAll_deals (c := c) hreads hstanding items
      exact ⟨⟨hs, hone.trans htrans, honly, hfine⟩, hres, hstand, hread⟩
    | error f =>
      refine ⟨⟨[], hone, .nil, fun _ => List.forall_mem_nil _⟩, rfl, hstanding, fun _ => ?_⟩
      exact (List.append_nil seen).symm ▸ hreads

/-- **The loop** polls until reading ends; every part of what it comes to is told by what it met. -/
structure Drains (c : Client σ) (rule : Rule) (seen : List Item) (fuel : Nat) (hs : List Happening)
    (run : Run σ) (outcome : Option (Except Failure Unit) × Run σ) : Prop where
  transfers : Transfers c rule.sink hs run outcome.2
  result : match outcome.1 with
    | none => rule.finish? seen (cuesIn hs) = none ∧ pollsIn hs = fuel
    | some (.ok ()) =>
      (∃ why, rule.finish? seen (cuesIn hs) = some (.stopped why)) ∧ ∀ h ∈ hs, h.failed = false
    | some (.error _) =>
      (∃ h ∈ hs, h.failed = true) ∨ ∃ f, rule.finish? seen (cuesIn hs) = some (.broken f)
  standing : outcome.2.standing
    = Standing.running.after ((rule.finish? seen (cuesIn hs)).bind Finish.reason?)
  reads : ((∃ f, rule.finish? seen (cuesIn hs) = some (.broken f)) → rule.Works) →
    Reads rule (seen ++ rule.taken seen (cuesIn hs)) outcome.2
  final : outcome.1 ≠ none → ∃ init reply uses, hs = init ++ .called .poll reply :: uses ∧ SinkOnly uses
    ∧ rule.finish? seen (cuesIn init) = none ∧ ∀ h ∈ init, h.failed = false

/-- A turn with which reading does not end comes before the rest of the loop. -/
theorem Drains.after_turn {seen : List Item} {fuel : Nat} {gs hs : List Happening} {cues : List Cue}
    {run next : Run σ} {outcome : Option (Except Failure Unit) × Run σ}
    (h : Drains c rule (seen ++ rule.taken seen cues) fuel hs next outcome)
    (transfers : Transfers c rule.sink gs run next) (met : cuesIn gs = cues) (polls : pollsIn gs = 1)
    (fine : ∀ h ∈ gs, h.failed = false) (goes : rule.finish? seen cues = none) :
    Drains c rule seen (fuel + 1) (gs ++ hs) run outcome := by
  have hseen := Rule.taken_eq_of_finish?_eq_none goes
  have hall : ∀ rest, cuesIn (gs ++ rest) = cues ++ cuesIn rest := fun _ => by rw [cuesIn_append, met]
  have hfin : ∀ rest, rule.finish? seen (cuesIn (gs ++ rest))
      = rule.finish? (seen ++ rule.taken seen cues) (cuesIn rest) := by
    intro rest
    rw [hall, Rule.finish?_append, goes, hseen]; rfl
  have htaken : rule.taken seen (cuesIn (gs ++ hs))
      = rule.taken seen cues ++ rule.taken (seen ++ rule.taken seen cues) (cuesIn hs) := by
    rw [hall, Rule.taken_append, goes, hseen]; rfl
  refine ⟨transfers.trans h.transfers, ?_, ?_, ?_, fun hend => ?_⟩
  · have hres := h.result
    rw [hfin]
    obtain ⟨result, last⟩ := outcome
    match result with
    | none => exact ⟨hres.1, by rw [pollsIn_append, polls, hres.2, Nat.add_comm]⟩
    | some (.ok ()) => exact ⟨hres.1, List.forall_mem_append.mpr ⟨fine, hres.2⟩⟩
    | some (.error _) =>
      exact Or.imp_left (fun ⟨x, hx, hbad⟩ => ⟨x, List.mem_append_right _ hx, hbad⟩) hres
  · rw [hfin]; exact h.standing
  · rw [hfin, htaken, ← List.append_assoc]; exact h.reads
  · obtain ⟨init, reply, uses, rfl, honly, hgoes, hfine⟩ := h.final hend
    exact ⟨gs ++ init, reply, uses, (List.append_assoc ..).symm, honly, (hfin init).trans hgoes,
      List.forall_mem_append.mpr ⟨fine, hfine⟩⟩

/-- A turn with which reading ends is the rest of the loop. -/
theorem Drains.of_last_turn {seen : List Item} {gs : List Happening} {reply : Reply Yield} {run next : Run σ}
    {result : Except Failure Unit} (fuel : Nat)
    (transfers : Transfers c rule.sink (.called .poll reply :: gs) run next) (only : SinkOnly gs)
    (met : cuesIn (.called .poll reply :: gs) = (Happening.called .poll reply).cues)
    (standing : next.standing = Standing.running.after
      ((rule.finish? seen (Happening.called .poll reply).cues).bind Finish.reason?))
    (reads : ((∃ f, rule.finish? seen (Happening.called .poll reply).cues = some (.broken f)) → rule.Works) →
      Reads rule (seen ++ rule.taken seen (Happening.called .poll reply).cues) next)
    (ends : match result with
      | .ok () => (∃ why, rule.finish? seen (Happening.called .poll reply).cues = some (.stopped why))
        ∧ ∀ h ∈ Happening.called .poll reply :: gs, h.failed = false
      | .error _ => (∃ h ∈ Happening.called .poll reply :: gs, h.failed = true)
        ∨ ∃ f, rule.finish? seen (Happening.called .poll reply).cues = some (.broken f)) :
    Drains c rule seen fuel (.called .poll reply :: gs) run (some result, next) where
  transfers := transfers
  result := by
    rw [met]
    match result with
    | .ok () => exact ends
    | .error _ => exact ends
  standing := by rw [met]; exact standing
  reads := by rw [met]; exact reads
  final := fun _ => ⟨[], reply, gs, rfl, only, rfl, List.forall_mem_nil _⟩

theorem drain_of_stopped {run : Run σ} (h : run.standing.isRunning = false) (sink : Sink) (l : Layout)
    (limit : Limit) (fuel : Nat) : run.drain c sink l limit fuel = (some (.ok ()), run) := by
  unfold drain
  rw [h]; rfl

/-- **The loop** does as the reference says, for every number of polls that it is given. -/
theorem drain_drains {seen : List Item} {run : Run σ} (h : Reads rule seen run)
    (hrun : run.standing = .running) (fuel : Nat) :
    ∃ hs, Drains c rule seen fuel hs run (run.drain c rule.sink rule.layout rule.limit fuel) := by
  induction fuel generalizing seen run with
  | zero =>
    refine ⟨[], ?_⟩
    rw [drain, hrun]
    exact ⟨.refl c rule.sink run, ⟨rfl, rfl⟩, hrun, fun _ => (List.append_nil seen).symm ▸ h,
      fun hend => absurd rfl hend⟩
  | succ fuel ih =>
    have hturn := turn_turns (c := c) h hrun
    rw [drain, hrun]
    generalize run.turn c rule.sink rule.layout rule.limit = outcome at hturn ⊢
    generalize pollReply c run.client = reply at hturn
    obtain ⟨result, next⟩ := outcome
    obtain ⟨⟨gs, htrans, honly, hfine⟩, hresult, hstanding, hreads⟩ := hturn
    have hmet : cuesIn (.called .poll reply :: gs) = (Happening.called .poll reply).cues := by
      rw [cuesIn, List.flatMap_cons, ← cuesIn, honly.cuesIn_eq_nil, List.append_nil]
    simp only [Standing.isRunning, if_true]
    cases hreply : reply.result with
    | error f =>
      -- The poll itself failed.
      rw [hreply] at hresult
      cases (show result = .error f from hresult)
      refine ⟨_, .of_last_turn _ htrans honly hmet hstanding hreads (.inl ⟨_, List.mem_cons_self, ?_⟩)⟩
      rw [Happening.failed, hreply]; rfl
    | ok yielded =>
      rw [hreply] at hresult
      have hpoll : (Happening.called .poll reply).failed = false := by rw [Happening.failed, hreply]; rfl
      cases hfinish : rule.finish? seen (Happening.called .poll reply).cues with
      | none =>
        rw [hfinish] at hresult hstanding hreads hfine
        cases (show result = .ok () from hresult)
        obtain ⟨hs, hdrain⟩ := ih (hreads (by simp)) hstanding
        exact ⟨_, hdrain.after_turn htrans hmet (honly.pollsIn_poll reply)
          (List.forall_mem_cons.mpr ⟨hpoll, hfine (by simp)⟩)
          hfinish⟩
      | some fin =>
        cases fin with
        | stopped why =>
          -- The run is stopped, so the loop does not poll again.
          have hstopped : next.standing.isRunning = false := by rw [hstanding, hfinish]; rfl
          rw [hfinish] at hresult hfine
          cases (show result = .ok () from hresult)
          have hends : ∀ x ∈ Happening.called .poll reply :: gs, x.failed = false :=
            List.forall_mem_cons.mpr ⟨hpoll, hfine (by simp)⟩
          refine ⟨.called .poll reply :: gs, ?_⟩
          show Drains c rule seen (fuel + 1) (.called .poll reply :: gs) run
            (drain c rule.sink rule.layout rule.limit fuel next)
          rw [drain_of_stopped hstopped]
          exact .of_last_turn _ htrans honly hmet hstanding hreads ⟨⟨why, hfinish⟩, hends⟩
        | broken f =>
          rw [hfinish] at hresult
          cases (show result = .error f from hresult)
          exact ⟨_, .of_last_turn _ htrans honly hmet hstanding hreads (.inr ⟨f, hfinish⟩)⟩

/-- What adds nothing is a stretch of the loop as well. -/
theorem Passes.transfers {sink : Sink} {run run' : Run σ} (h : Passes c sink [] run run')
    (streams : run'.streams = run.streams) : Transfers c sink [] run run' :=
  ⟨h.toAdds, .nil, streams, h.closed⟩

/-- The loop's own log records change nothing of what it does. -/
theorem loop_eq (c : Client σ) (rule : Rule) (fuel : Nat) (run : Run σ) :
    ∃ start : Run σ, Passes c rule.sink [] run start ∧ start.streams = run.streams
      ∧ (run.loop c rule.sink rule.layout rule.limit fuel).1
        = (start.drain c rule.sink rule.layout rule.limit fuel).1
      ∧ Passes c rule.sink [] (start.drain c rule.sink rule.layout rule.limit fuel).2
        (run.loop c rule.sink rule.layout rule.limit fuel).2
      ∧ (run.loop c rule.sink rule.layout rule.limit fuel).2.streams
        = (start.drain c rule.sink rule.layout rule.limit fuel).2.streams := by
  have own : (Level.debug, loopOrigin) ∈ ownKinds := by simp [ownKinds]
  have hnote := note_passes c rule.sink own "Consume loop started"
    [("limit", limitValue rule.limit), ("threshold", .int run.tracker.threshold)] run
  have hsame : (run.note Level.debug loopOrigin "Consume loop started"
      [("limit", limitValue rule.limit), ("threshold", .int run.tracker.threshold)]).streams = run.streams := rfl
  unfold loop
  dsimp only
  generalize run.note Level.debug loopOrigin "Consume loop started" _ = start at hnote hsame ⊢
  refine ⟨start, hnote, hsame, ?_⟩
  generalize start.drain c rule.sink rule.layout rule.limit fuel = outcome
  obtain ⟨result, last⟩ := outcome
  cases result with
  | none => exact ⟨rfl, .refl c rule.sink last, rfl⟩
  | some result =>
    cases result with
    | error f => exact ⟨rfl, .refl c rule.sink last, rfl⟩
    | ok u => exact ⟨rfl, note_passes c rule.sink own _ _ last, rfl⟩

end TopicReader.Run
