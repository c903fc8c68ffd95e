import Mathlib.Logic.Function.Iterate
import TopicReader.Proofs.Run.Loop

/-!
# `Proofs.Run.Moments` — the loop, moment by moment

The loop is defined by what it comes to. Statements about what holds *while* it runs need its moments: it asks for a
batch, it deals with the items of the batch one after the other, or it is over. `Moment.next` is one step of it, and
`loop_reached` says that the steps are those of the loop: with any number of polls to go, what the loop comes to is
one of its moments. `Moves` says once what a step can do, and what it adds to the history of the run.

## Contents
- **Moments.** `Phase`, `Moment`, `Moment.next` with one equation for each of its cases, `Moment.after` and
  `Run.entering`.
- **The loop.** `dispatchAll_reached`, `drain_reached`, `loop_reached`.
- **Steps.** `Moves`, and `next_moves` for every step.
-/

namespace TopicReader

variable {σ : Type}

/-! ## Moments -/

/-- What a loop does next: ask for a batch if the run goes on, deal with the rest of a batch, or nothing more. -/
inductive Phase where
  | asking
  | dealing (rest : List Item)
  | finished (result : Except Failure Unit)

/-- A moment of a loop. -/
structure Moment (σ : Type) where
  phase : Phase
  run : Run σ

/-- The loop begins: its first log record is written. -/
def Run.entering (limit : Limit) (run : Run σ) : Moment σ :=
  ⟨.asking, run.note Level.debug Run.loopOrigin "Consume loop started"
    [("limit", Run.limitValue limit), ("threshold", .int run.tracker.threshold)]⟩

/-- The loop ends: its last log record is written. -/
def Run.leaving (run : Run σ) : Moment σ :=
  ⟨.finished (.ok ()), run.note Level.debug Run.loopOrigin "Consume loop finished"
    [("messages_consumed", .int run.received), ("reason", Problem.optText run.standing.reason?)]⟩

namespace Moment

/-- **One step of the loop.** Before each batch and before each item it looks whether the run goes on. -/
def next (c : Client σ) (sink : Sink) (l : Layout) (limit : Limit) (m : Moment σ) : Moment σ :=
  match m.phase with
  | .asking =>
    if m.run.standing.isRunning then
      match m.run.poll c Run.pollWait with
      | (.ok items, run) => ⟨.dealing items, run⟩
      | (.error f, run) => ⟨.finished (.error f), run⟩
    else m.run.leaving
  | .dealing [] => ⟨.asking, m.run⟩
  | .dealing (item :: rest) =>
    if m.run.standing.isRunning then
      match m.run.dispatch sink l limit item with
      | (.ok (), run) => ⟨.dealing rest, run⟩
      | (.error f, run) => ⟨.finished (.error f), run⟩
    else ⟨.asking, m.run⟩
  | .finished _ => m

/-- The moment after a number of steps. -/
def after (c : Client σ) (sink : Sink) (l : Layout) (limit : Limit) (m : Moment σ) (k : Nat) : Moment σ :=
  (next c sink l limit)^[k] m

variable {c : Client σ} {sink : Sink} {l : Layout} {limit : Limit}

theorem after_add (m : Moment σ) (j k : Nat) :
    m.after c sink l limit (j + k) = (m.after c sink l limit j).after c sink l limit k := by
  unfold after
  rw [Nat.add_comm, Function.iterate_add_apply]

theorem after_succ (m : Moment σ) (k : Nat) :
    m.after c sink l limit (k + 1) = (m.after c sink l limit k).next c sink l limit :=
  Function.iterate_succ_apply' _ k m

theorem after_of_next (m : Moment σ) (k : Nat) :
    m.after c sink l limit (k + 1) = (m.next c sink l limit).after c sink l limit k :=
  Function.iterate_succ_apply _ k m

/-- One step is the first moment. -/
theorem after_one (m : Moment σ) : m.after c sink l limit 1 = m.next c sink l limit := rfl

/-- When the loop is over, nothing happens any more. -/
theorem after_finished (result : Except Failure Unit) (run : Run σ) (k : Nat) :
    after c sink l limit ⟨.finished result, run⟩ k = ⟨.finished result, run⟩ := by
  induction k with
  | zero => rfl
  | succ k ih => rw [after_succ, ih]; rfl

section Steps

variable {run last : Run σ} {item : Item} {rest items : List Item} {f : Failure}

theorem next_asking_of_stopped (stopped : run.standing.isRunning = false) :
    next c sink l limit ⟨.asking, run⟩ = run.leaving := by
  simp only [next, stopped]
  rfl

theorem next_dealing_of_stopped (stopped : run.standing.isRunning = false) :
    next c sink l limit ⟨.dealing (item :: rest), run⟩ = ⟨.asking, run⟩ := by
  simp only [next, stopped]
  rfl

theorem next_of_polled (running : run.standing.isRunning = true)
    (poll : run.poll c Run.pollWait = (.ok items, last)) :
    next c sink l limit ⟨.asking, run⟩ = ⟨.dealing items, last⟩ := by
  simp only [next, running, if_true, poll]

theorem next_of_unpolled (running : run.standing.isRunning = true)
    (poll : run.poll c Run.pollWait = (.error f, last)) :
    next c sink l limit ⟨.asking, run⟩ = ⟨.finished (.error f), last⟩ := by
  simp only [next, running, if_true, poll]

theorem next_of_dispatched (running : run.standing.isRunning = true)
    (dispatched : run.dispatch sink l limit item = (.ok (), last)) :
    next c sink l limit ⟨.dealing (item :: rest), run⟩ = ⟨.dealing rest, last⟩ := by
  simp only [next, running, if_true, dispatched]

theorem next_of_refused (running : run.standing.isRunning = true)
    (refused : run.dispatch sink l limit item = (.error f, last)) :
    next c sink l limit ⟨.dealing (item :: rest), run⟩ = ⟨.finished (.error f), last⟩ := by
  simp only [next, running, if_true, refused]

end Steps

end Moment

namespace Run

section Reached

variable (c : Client σ) (sink : Sink) (l : Layout) (limit : Limit)

/-! ## The loop -/

/-- Where a loop is when a batch has been dealt with. -/
def dealt : Except Failure Unit × Run σ → Moment σ
  | (.ok (), run) => ⟨.asking, run⟩
  | (.error f, run) => ⟨.finished (.error f), run⟩

/-- Where a loop is when its polls are used up, or when it has come to a result. -/
def cameTo : Option (Except Failure Unit) × Run σ → Moment σ
  | (none, run) => ⟨.asking, run⟩
  | (some result, run) => ⟨.finished result, run⟩

/-- Where a loop is behind its polls: what stopped the run without a failure lets the loop end by itself. -/
def polled : Option (Except Failure Unit) × Run σ → Moment σ
  | (some (.ok ()), run) => run.leaving
  | outcome => cameTo outcome

/-- A batch is dealt with in one or more steps. -/
theorem dispatchAll_reached (items : List Item) (run : Run σ) :
    ∃ k, 0 < k ∧ Moment.after c sink l limit ⟨.dealing items, run⟩ k
      = dealt (run.dispatchAll sink l limit items) := by
  induction items generalizing run with
  | nil => exact ⟨1, Nat.one_pos, rfl⟩
  | cons item rest ih =>
    cases hrun : run.standing.isRunning with
    | false =>
      -- A run that was stopped drops the rest of the batch in one step.
      refine ⟨1, Nat.one_pos, ?_⟩
      rw [dispatchAll_of_stopped hrun, Moment.after_one, Moment.next_dealing_of_stopped hrun]
      rfl
    | true =>
      cases hone : run.dispatch sink l limit item with
      | mk result next =>
      rw [dispatchAll, hrun, if_pos rfl, hone]
      cases result with
      | error f =>
        refine ⟨1, Nat.one_pos, ?_⟩
        rw [Moment.after_one, Moment.next_of_refused hrun hone]
        rfl
      | ok u =>
        obtain ⟨k, -, hk⟩ := ih next
        refine ⟨k + 1, Nat.succ_pos k, ?_⟩
        rw [Moment.after_of_next, Moment.next_of_dispatched hrun hone]
        exact hk

/-- **The polls of a loop** are made in at least as many steps; a loop that has ended stays where it is. -/
theorem drain_reached (fuel : Nat) (run : Run σ) :
    ∃ k, fuel ≤ k ∧ Moment.after c sink l limit ⟨.asking, run⟩ k = polled (run.drain c sink l limit fuel) := by
  induction fuel generalizing run with
  | zero =>
    unfold drain
    cases hrun : run.standing.isRunning with
    | true => exact ⟨0, Nat.le_refl 0, rfl⟩
    | false =>
      refine ⟨1, Nat.zero_le 1, ?_⟩
      rw [Moment.after_one, Moment.next_asking_of_stopped hrun]
      rfl
  | succ fuel ih =>
    unfold drain
    cases hrun : run.standing.isRunning with
    | false =>
      -- The loop is over after one step; the steps that are left change nothing.
      refine ⟨1 + fuel, by omega, ?_⟩
      rw [Moment.after_add, Moment.after_one, Moment.next_asking_of_stopped hrun]
      exact Moment.after_finished _ _ fuel
    | true =>
      simp only [if_true, turn]
      cases hpoll : run.poll c pollWait with
      | mk result next =>
      cases result with
      | error f =>
        refine ⟨1 + fuel, by omega, ?_⟩
        rw [Moment.after_add, Moment.after_one, Moment.next_of_unpolled hrun hpoll]
        exact Moment.after_finished _ _ fuel
      | ok items =>
        dsimp only
        -- First the steps of the batch, then those of the polls that are left.
        obtain ⟨j, hj, hbatch⟩ := dispatchAll_reached c sink l limit items next
        cases hall : next.dispatchAll sink l limit items with
        | mk result last =>
        rw [hall] at hbatch
        cases result with
        | error f =>
          refine ⟨j + 1 + fuel, by omega, ?_⟩
          rw [Moment.after_add, Moment.after_of_next, Moment.next_of_polled hrun hpoll, hbatch]
          exact Moment.after_finished _ _ fuel
        | ok u =>
          obtain ⟨k, hk, hrest⟩ := ih last
          refine ⟨j + 1 + k, by omega, ?_⟩
          rw [Moment.after_add, Moment.after_of_next, Moment.next_of_polled hrun hpoll, hbatch]
          exact hrest

/-- **What the loop comes to** is one of its moments, whatever the number of its polls. -/
theorem loop_reached (fuel : Nat) (run : Run σ) :
    ∃ k, fuel ≤ k ∧ (run.entering limit).after c sink l limit k = cameTo (run.loop c sink l limit fuel) := by
  obtain ⟨k, hk, hreached⟩ := drain_reached c sink l limit fuel (run.entering limit).run
  refine ⟨k, hk, hreached.trans ?_⟩
  unfold loop
  dsimp only [entering]
  generalize drain c sink l limit fuel _ = outcome
  obtain ⟨result, last⟩ := outcome
  cases result with
  | none => rfl
  | some result => cases result <;> rfl

end Reached

/-! ## Steps -/

variable {c : Client σ} {sink : Sink} {l : Layout} {limit : Limit}

/-- **What one step of a loop can do**, with what it adds to the history of the run. Only a run that goes on polls or
    deals with an item, and only a record that was written counts. -/
inductive Moves (sink : Sink) (l : Layout) (limit : Limit) : List Happening → Moment σ → Moment σ → Prop where
  | polled {run next : Run σ} {is : List Incident} {items : List Item} (running : run.standing = .running)
    (received : next.received = run.received) :
    Moves sink l limit [.called .poll ⟨is, .ok (.items items)⟩] ⟨.asking, run⟩ ⟨.dealing items, next⟩
  | unpolled {run next : Run σ} {is : List Incident} {f : Failure} (running : run.standing = .running)
    (received : next.received = run.received) :
    Moves sink l limit [.called .poll ⟨is, .error f⟩] ⟨.asking, run⟩ ⟨.finished (.error f), next⟩
  | left {run : Run σ} (stopped : run.standing.isRunning = false) : Moves sink l limit [] ⟨.asking, run⟩ run.leaving
  | emptied {run : Run σ} : Moves sink l limit [] ⟨.dealing [], run⟩ ⟨.asking, run⟩
  | dropped {run : Run σ} {items : List Item} (stopped : run.standing.isRunning = false) :
    Moves sink l limit [] ⟨.dealing items, run⟩ ⟨.asking, run⟩
  | wrote {run next : Run σ} {r : Record} {rest : List Item} {hs : List Happening} {out : Output}
    (running : run.standing = .running) (formatted : Formatted sink l r run.output hs (.ok ()) out)
    (received : next.received = run.received + 1)
    (standing : next.standing = .running ∧ (∀ n, limit = some n → next.received < n)
      ∨ next.standing = .stopped "limit" ∧ limit.isSome = true) :
    Moves sink l limit hs ⟨.dealing (.record r :: rest), run⟩ ⟨.dealing rest, next⟩
  | refused {run next : Run σ} {r : Record} {rest : List Item} {hs : List Happening} {out : Output} {f : Failure}
    (running : run.standing = .running) (formatted : Formatted sink l r run.output hs (.error f) out)
    (received : next.received = run.received) :
    Moves sink l limit hs ⟨.dealing (.record r :: rest), run⟩ ⟨.finished (.error f), next⟩
  | ended {run next : Run σ} {topic : String} {p o : Int} {rest : List Item} (running : run.standing = .running)
    (received : next.received = run.received) :
    Moves sink l limit [] ⟨.dealing (.ended topic p o :: rest), run⟩ ⟨.dealing rest, next⟩
  | broken {run : Run σ} {items : List Item} {f : Failure} (running : run.standing = .running) :
    Moves sink l limit [] ⟨.dealing items, run⟩ ⟨.finished (.error f), run⟩
  | stayed {run : Run σ} {result : Except Failure Unit} :
    Moves sink l limit [] ⟨.finished result, run⟩ ⟨.finished result, run⟩

/-- A poll is a step. -/
theorem asking_moves (run : Run σ) :
    ∃ hs, Adds c sink hs run (Moment.next c sink l limit ⟨.asking, run⟩).run
      ∧ Moves sink l limit hs ⟨.asking, run⟩ (Moment.next c sink l limit ⟨.asking, run⟩) := by
  cases hrun : run.standing with
  | stopped why =>
    have hstopped : run.standing.isRunning = false := by rw [hrun]; rfl
    have hnote := note_passes c sink (show (Level.debug, loopOrigin) ∈ ownKinds by simp [ownKinds])
      "Consume loop finished"
      [("messages_consumed", .int run.received), ("reason", Problem.optText run.standing.reason?)] run
    rw [Moment.next_asking_of_stopped hstopped]
    exact ⟨[], hnote.toAdds, .left hstopped⟩
  | running =>
    cases hpoll : run.poll c pollWait with
    | mk result next =>
    obtain ⟨is, hpass, -⟩ := ask_called c sink (g := .items) (fun _ => rfl) hpoll
    cases result with
    | ok items =>
      rw [Moment.next_of_polled (by rw [hrun]; rfl) hpoll]
      exact ⟨_, hpass.toAdds, .polled hrun hpass.received⟩
    | error f =>
      rw [Moment.next_of_unpolled (by rw [hrun]; rfl) hpoll]
      exact ⟨_, hpass.toAdds, .unpolled hrun hpass.received⟩

/-- A record that a run deals with is written, and then it counts. -/
theorem record_moves (run : Run σ) (hrun : run.standing = .running) (r : Record) (rest : List Item) :
    ∃ hs, Adds c sink hs run (Moment.next c sink l limit ⟨.dealing (.record r :: rest), run⟩).run
      ∧ Moves sink l limit hs ⟨.dealing (.record r :: rest), run⟩
        (Moment.next c sink l limit ⟨.dealing (.record r :: rest), run⟩) := by
  have hgoes : run.standing.isRunning = true := by rw [hrun]; rfl
  obtain ⟨hs, hadds, hformatted⟩ := format_formats c sink l r run
  have hreceived : (run.format sink l r).2.received = run.received := rfl
  have hstanding : (run.format sink l r).2.standing = .running := hrun
  cases hformat : run.format sink l r with
  | mk result next =>
  rw [hformat] at hadds hformatted hreceived hstanding
  cases result with
  | error f =>
    have hdispatch : run.dispatch sink l limit (.record r) = (.error f, next) := by
      simp only [dispatch, takeRecord, atPosition_format, hformat]
    rw [Moment.next_of_refused hgoes hdispatch]
    exact ⟨hs, hadds, .refused hrun hformatted hreceived⟩
  | ok u =>
    have hdispatch : run.dispatch sink l limit (.record r) = (.ok (), next.count limit) := by
      simp only [dispatch, takeRecord, atPosition_format, hformat]
    obtain ⟨hcount, -, -, hone, hhalt⟩ := count_counts (c := c) ⟨[], false, false, limit, sink, l⟩ next
    have hboth := hadds.trans hcount.toAdds
    rw [List.append_nil] at hboth
    rw [Moment.next_of_dispatched hgoes hdispatch]
    refine ⟨hs, hboth, .wrote hrun hformatted (hone.trans (by rw [hreceived])) ?_⟩
    rw [hstanding] at hhalt
    rw [hone]
    cases limit with
    | none => exact .inl ⟨hhalt, fun n hn => absurd hn (by simp)⟩
    | some n =>
      by_cases hfull : n ≤ next.received + 1
      · simp only [Rule.isFull, hfull, decide_true, if_true] at hhalt
        exact .inr ⟨hhalt, rfl⟩
      · simp only [Rule.isFull, hfull, decide_false, if_false, Bool.false_eq_true] at hhalt
        refine .inl ⟨hhalt, fun k hk => ?_⟩
        cases hk
        omega

/-- **Every step** of a loop is one of these. -/
theorem next_moves (c : Client σ) (sink : Sink) (l : Layout) (limit : Limit) (m : Moment σ) :
    ∃ hs, Adds c sink hs m.run (m.next c sink l limit).run ∧ Moves sink l limit hs m (m.next c sink l limit) := by
  obtain ⟨phase, run⟩ := m
  cases phase with
  | asking => exact asking_moves run
  | finished result => exact ⟨[], .refl c sink run, .stayed⟩
  | dealing items =>
    cases items with
    | nil => exact ⟨[], .refl c sink run, .emptied⟩
    | cons item rest =>
      cases hrun : run.standing with
      | stopped why =>
        have hstopped : run.standing.isRunning = false := by rw [hrun]; rfl
        rw [Moment.next_dealing_of_stopped hstopped]
        exact ⟨[], .refl c sink run, .dropped hstopped⟩
      | running =>
        have hgoes : run.standing.isRunning = true := by rw [hrun]; rfl
        cases item with
        | record r => exact record_moves run hrun r rest
        | ended topic p o =>
          have hobserve := observe_transfers (c := c) sink topic p o run
          rw [Moment.next_of_dispatched hgoes rfl]
          refine ⟨[], hobserve.toAdds, .ended hrun ?_⟩
          rw [atPosition_observe]
        | failed topic p f =>
          rw [Moment.next_of_refused hgoes rfl]
          exact ⟨[], .refl c sink run, .broken hrun⟩
        | alien v =>
          rw [Moment.next_of_refused hgoes rfl]
          exact ⟨[], .refl c sink run, .broken hrun⟩

end Run

end TopicReader
