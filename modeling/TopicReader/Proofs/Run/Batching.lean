import TopicReader.Client.Script
import TopicReader.Proofs.Run.Loop

/-!
# `Proofs.Run.Batching` — the loop does not see how its queue is cut into batches

A client hands its queue to the loop in batches. The loop looks at its standing before each batch and before
each item, several things may stop it inside one batch, and what comes after the stop is dropped; still, what
it does is told by the queue alone, wherever the cuts are.

## Contents
- **Serving.** `Client.Serves`: a client whose polls bring given batches.
- **The item that ends it.** `Rule.taken_length_le` and `Rule.taken_ne_nil` place it in the queue.
- **The loop.** `loop_reads_queue`.
-/

namespace TopicReader

variable {σ : Type} {c : Client σ}

/-! ## Serving -/

/-- **A client serves batches** when its next polls bring them, one each, and nobody stops the run meanwhile. -/
inductive Client.Serves (c : Client σ) : σ → List (List Item) → Prop where
  | nil (s : σ) : Serves c s []
  | cons {s s' : σ} {is : List Incident} {items : List Item} {rest : List (List Item)} :
      c.poll Run.pollWait s = (⟨is, .ok items⟩, s') → is.filterMap Happening.reasonOf = [] →
      Serves c s' rest → Serves c s (items :: rest)

/-- A script of nothing but batches. -/
def Script.serving (batches : List (List Item)) : Script :=
  ⟨none, none, none, [], [], .absent "events", batches.map fun items => .of (.ok items), none, 0⟩

theorem Script.serving_serves (batches : List (List Item)) :
    Script.client.Serves (.serving batches) batches := by
  induction batches with
  | nil => exact .nil _
  | cons items rest ih => exact .cons rfl rfl ih

/-! ## The item that ends it -/

namespace Rule

variable {rule : Rule}

theorem taken_length_le (seen : List Item) (items : List Item) :
    (rule.taken seen (items.map .item)).length ≤ items.length := by
  induction items generalizing seen with
  | nil => exact Nat.le_refl 0
  | cons item rest ih =>
    rw [List.map_cons, taken]
    split
    · exact Nat.succ_le_succ (Nat.zero_le _)
    · exact Nat.succ_le_succ (ih (seen ++ [item]))

/-- Reading ends with an item. -/
theorem taken_ne_nil {seen : List Item} {items : List Item}
    (h : (rule.finish? seen (items.map .item)).isSome = true) : rule.taken seen (items.map .item) ≠ [] := by
  cases items with
  | nil => exact absurd h (by simp [finish?])
  | cons item rest =>
    rw [List.map_cons, taken]
    split <;> simp

end Rule

namespace Run

variable {rule : Rule}

/-! ## The loop -/

/-- A turn asks the client for one batch and no more. -/
theorem Turns.client {seen : List Item} {run : Run σ} {outcome : Except Failure Unit × Run σ}
    {reply : Reply Yield} {cues : List Cue} (h : Turns c rule seen run outcome reply cues) :
    outcome.2.client = (c.poll pollWait run.client).2 := by
  obtain ⟨hs, htrans, honly, -⟩ := h.uses
  have hsides := congrArg Sides.client htrans.sides
  rw [List.map_cons, Sides.after, honly.after_client] at hsides
  exact hsides.symm

theorem pollsIn_eq_count (hs : List Happening) :
    pollsIn hs = (hs.map Happening.event).count (.call .poll) := by
  rw [pollsIn, List.count, List.countP_map]
  refine List.countP_congr fun x _ => ?_
  match x with
  | .called .poll _ => simp [Happening.isPoll, Happening.event]
  | .called .start _ | .called .stop _ | .called (.fetch ..) _ | .called (.openStream ..) _
  | .called (.closeStream ..) _ | .wrote .. | .flushed _ => simp [Happening.isPoll, Happening.event]

/-- **What the loop comes to when a client serves batches**, from any point of the queue on: the number of polls
    is the index of the batch that holds the item with which reading ends. -/
structure Served (c : Client σ) (rule : Rule) (seen : List Item) (batches : List (List Item)) (fin : Finish)
    (run : Run σ) (outcome : Option (Except Failure Unit) × Run σ) (n : Nat) : Prop where
  result : outcome.1 = some fin.result
  standing : outcome.2.standing = Standing.running.after fin.reason?
  reads : Reads rule (seen ++ rule.taken seen (batches.flatten.map .item)) outcome.2
  polls : ∃ hs, Transfers c rule.sink hs run outcome.2 ∧ pollsIn hs = n
  before : (batches.take (n - 1)).flatten.length < (rule.taken seen (batches.flatten.map .item)).length
  within : (rule.taken seen (batches.flatten.map .item)).length ≤ (batches.take n).flatten.length

/-- Reading ends in the first batch. -/
theorem Served.of_first {seen : List Item} {items : List Item} {rest : List (List Item)} {fin : Finish}
    {run : Run σ} {outcome : Option (Except Failure Unit) × Run σ} {hs : List Happening}
    (hfin : rule.finish? seen (items.map .item) = some fin) (result : outcome.1 = some fin.result)
    (standing : outcome.2.standing = Standing.running.after fin.reason?)
    (reads : Reads rule (seen ++ rule.taken seen (items.map .item)) outcome.2)
    (transfers : Transfers c rule.sink hs run outcome.2) (polls : pollsIn hs = 1) :
    Served c rule seen (items :: rest) fin run outcome 1 := by
  have htaken : rule.taken seen ((items :: rest).flatten.map .item) = rule.taken seen (items.map .item) := by
    rw [List.flatten_cons, List.map_append, Rule.taken_append, hfin]
    exact List.append_nil _
  refine ⟨result, standing, ?_, ⟨hs, transfers, polls⟩, ?_, ?_⟩
  · rw [htaken]; exact reads
  · rw [htaken]
    exact List.length_pos_of_ne_nil (Rule.taken_ne_nil (by rw [hfin]; rfl))
  · rw [htaken, List.take_succ_cons, List.take_zero, List.flatten_cons, List.flatten_nil, List.append_nil]
    exact Rule.taken_length_le seen items

/-- Reading goes on after the first batch. -/
theorem Served.after_first {seen : List Item} {items : List Item} {rest : List (List Item)} {fin : Finish}
    {run next : Run σ} {outcome : Option (Except Failure Unit) × Run σ} {gs : List Happening} {n : Nat}
    (h : Served c rule (seen ++ items) rest fin next outcome n)
    (goes : rule.finish? seen (items.map .item) = none) (pos : 0 < n)
    (transfers : Transfers c rule.sink gs run next) (polls : pollsIn gs = 1) :
    Served c rule seen (items :: rest) fin run outcome (n + 1) := by
  have htaken : rule.taken seen ((items :: rest).flatten.map .item)
      = items ++ rule.taken (seen ++ items) (rest.flatten.map .item) := by
    rw [List.flatten_cons, List.map_append, Rule.taken_append, goes,
      Rule.taken_eq_of_finish?_eq_none goes, filterMap_item?]
    rfl
  obtain ⟨hs, htrans, hpolls⟩ := h.polls
  refine ⟨h.result, h.standing, ?_, ⟨gs ++ hs, transfers.trans htrans, ?_⟩, ?_, ?_⟩
  · rw [htaken, ← List.append_assoc]; exact h.reads
  · rw [pollsIn_append, polls, hpolls, Nat.add_comm]
  · obtain ⟨m, rfl⟩ : ∃ m, n = m + 1 := ⟨n - 1, by omega⟩
    rw [htaken, Nat.add_sub_cancel, List.take_succ_cons, List.flatten_cons, List.length_append,
      List.length_append]
    exact Nat.add_lt_add_left h.before _
  · rw [htaken, List.take_succ_cons, List.flatten_cons, List.length_append, List.length_append]
    exact Nat.add_le_add_left h.within _

/-- The induction is on the batches: either reading goes on after the first one, or it ends in it. -/
theorem drain_served {batches : List (List Item)} {seen : List Item} {run : Run σ} {fuel : Nat} {fin : Finish}
    (works : rule.Works) (h : Reads rule seen run) (hrun : run.standing = .running)
    (serves : c.Serves run.client batches)
    (hfin : rule.finish? seen (batches.flatten.map .item) = some fin) (hfuel : batches.length ≤ fuel) :
    ∃ n, 0 < n
      ∧ Served c rule seen batches fin run (run.drain c rule.sink rule.layout rule.limit fuel) n := by
  induction batches generalizing seen run fuel with
  | nil => exact absurd hfin (by simp [Rule.finish?])
  | cons items rest ih =>
    obtain ⟨fuel, rfl⟩ : ∃ m, fuel = m + 1 := ⟨fuel - 1, by simp only [List.length_cons] at hfuel; omega⟩
    have hturn := turn_turns (c := c) h hrun
    have hclient := hturn.client
    cases serves with
    | cons hpoll hcalm hrest =>
    rename_i s' is
    have hreply : pollReply c run.client = ⟨is, .ok (.items items)⟩ := by rw [pollReply, hpoll]; rfl
    have hcues : (Happening.called .poll ⟨is, .ok (.items items)⟩).cues = items.map .item := by
      rw [Happening.cues, Happening.stops, hcalm]; rfl
    rw [hreply, hcues] at hturn
    rw [hpoll] at hclient
    rw [drain, hrun]
    generalize run.turn c rule.sink rule.layout rule.limit = outcome at hturn hclient ⊢
    obtain ⟨result, next⟩ := outcome
    obtain ⟨⟨gs, htrans, honly, -⟩, hresult, hstanding, hreads⟩ := hturn
    have hpolls := honly.pollsIn_poll ⟨is, .ok (.items items)⟩
    have hread := hreads fun _ => works
    simp only [Standing.isRunning, if_true]
    rw [List.flatten_cons, List.map_append, Rule.finish?_append] at hfin
    cases hfirst : rule.finish? seen (items.map .item) with
    | none =>
      -- All items of the first batch were read, and the client serves the others.
      have hitems := Rule.taken_eq_of_finish?_eq_none hfirst
      rw [filterMap_item?] at hitems hfin
      rw [hfirst] at hfin hresult hstanding
      rw [hitems] at hread
      cases (show result = .ok () from hresult)
      obtain ⟨n, hpos, hserved⟩ := ih hread hstanding (by rw [hclient]; exact hrest) hfin
        (Nat.le_of_succ_le_succ hfuel)
      exact ⟨n + 1, Nat.succ_pos n, hserved.after_first hfirst hpos htrans hpolls⟩
    | some first =>
      -- The item is in the first batch, so what ends the turn ends the loop.
      rw [hfirst] at hfin hresult hstanding
      cases (show first = fin from Option.some.inj hfin)
      refine ⟨1, Nat.one_pos, ?_⟩
      cases fin with
      | stopped why =>
        cases (show result = .ok () from hresult)
        have hstopped : next.standing.isRunning = false := by
          rw [show next.standing = _ from hstanding]; rfl
        simp only [drain_of_stopped hstopped]
        exact .of_first hfirst rfl hstanding hread htrans hpolls
      | broken f =>
        cases (show result = .error f from hresult)
        exact .of_first hfirst rfl hstanding hread htrans hpolls

/-- **The loop equals a reading of its queue item by item**, however the queue is cut into batches. Let `item` be
    the first item of the queue with which reading ends, and `fin` how: the loop has written exactly the records
    up to it, each in one piece, it comes to `fin`, and it polls up to the batch that holds the item. -/
theorem loop_reads_queue (c : Client σ) (rule : Rule) (works : rule.Works) (before after : List Item)
    (item : Item) (fin : Finish) (goes : rule.finish? [] (before.map .item) = none)
    (ends : rule.verdict? before item = some fin) (run : Run σ) (running : run.standing = .running)
    (unread : run.received = 0) (unwritten : run.output = .empty)
    (tracker : run.tracker = .ofPartitions rule.scope rule.single rule.active) (batches : List (List Item))
    (cut : batches.flatten = before ++ item :: after) (serves : c.Serves run.client batches) (fuel : Nat)
    (enough : batches.length ≤ fuel) :
    let outcome := run.loop c rule.sink rule.layout rule.limit fuel
    outcome.1 = some fin.result ∧ outcome.2.standing = Standing.running.after fin.reason?
      ∧ outcome.2.output.bytes = (recordsIn (before ++ [item])).flatMap rule.layout.render
      ∧ outcome.2.received = (recordsIn (before ++ [item])).length
      ∧ ∃ n, outcome.2.events.count (.call .poll) = run.events.count (.call .poll) + n
        ∧ (batches.take (n - 1)).flatten.length ≤ before.length
        ∧ before.length < (batches.take n).flatten.length := by
  intro outcome
  have hfin : rule.finish? [] (batches.flatten.map .item) = some fin := by
    rw [cut, List.map_append, Rule.finish?_append, goes, filterMap_item?, List.map_cons, Rule.finish?_item,
      List.nil_append, ends]
    rfl
  have htaken : rule.taken [] (batches.flatten.map .item) = before ++ [item] := by
    rw [cut, List.map_append, Rule.taken_append, goes, filterMap_item?,
      Rule.taken_eq_of_finish?_eq_none goes, filterMap_item?, List.map_cons, List.nil_append, Rule.taken, ends]
    rfl
  obtain ⟨start, hbegin, -, hresult, hend, -⟩ := loop_eq c rule fuel run
  have hclient : start.client = run.client := (congrArg Sides.client hbegin.sides).symm
  have hreads : Reads rule [] start := (Reads.nil unwritten unread tracker).passes hbegin
  obtain ⟨n, hpos, hserved⟩ := drain_served (c := c) works hreads (hbegin.standing.trans running)
    (by rw [hclient]; exact serves) hfin enough
  have hread := hserved.reads.passes hend
  rw [htaken, List.nil_append] at hread
  have hlow := hserved.before
  have hhigh := hserved.within
  rw [htaken, List.length_append, List.length_singleton] at hlow hhigh
  refine ⟨hresult.trans hserved.result, hend.standing.trans hserved.standing, ?_, hread.received, n, ?_, ?_, ?_⟩
  · rw [hread.output, Output.bytes, Rule.output, List.reverse_reverse, List.flatMap]
  · obtain ⟨hs, htrans, hpolls⟩ := hserved.polls
    have hevents := ((hbegin.toAdds.trans htrans.toAdds).trans hend.toAdds).events
    rw [List.nil_append, List.append_nil] at hevents
    rw [hevents, List.count_append, List.count_reverse, ← pollsIn_eq_count, hpolls, Nat.add_comm]
  · omega
  · omega

/-- Two partitions in three batches: the end of partition 7 is none of the run's, that of partition 0 counts once,
    and the record behind the last end is dropped. -/
theorem loop_reads_queue_of_script :
    let first : Record := ⟨"events", 0, 5, none, some [0x61]⟩
    let batches : List (List Item) :=
      [[.record first, .ended "events" 0 6], [.ended "events" 7 0, .ended "events" 0 6],
       [.ended "events" 1 0, .record first]]
    let rule : Rule := ⟨[0, 1], false, true, none, .steady, .usual⟩
    let run := { Run.fresh (Script.serving batches) .empty with tracker := .ofPartitions [0, 1] false true }
    let outcome := run.loop Script.client rule.sink rule.layout rule.limit 3
    outcome.1 = some (.ok ()) ∧ outcome.2.standing = .stopped "eof" ∧ outcome.2.output.bytes = [0x61, 0x0a]
      ∧ outcome.2.received = 1 := by
  intro first batches rule run
  have h := loop_reads_queue Script.client rule (fun _ _ => rfl)
    [.record first, .ended "events" 0 6, .ended "events" 7 0, .ended "events" 0 6] [.record first]
    (.ended "events" 1 0) (.stopped "eof") rfl rfl run rfl rfl rfl rfl batches rfl
    (Script.serving_serves batches) 3 (Nat.le_refl 3)
  generalize run.loop Script.client rule.sink rule.layout rule.limit 3 = outcome at h ⊢
  obtain ⟨hresult, hstanding, hbytes, hreceived, -⟩ := h
  exact ⟨hresult, hstanding, hbytes, hreceived⟩

end Run

end TopicReader
