import TopicReader.Proofs.Run.Batching
import TopicReader.Proofs.Run.Moments

/-!
# `Proofs.Run.Emission` — what the sink was given, at every moment of a loop

A loop may be stopped from outside beside any poll, the sink may refuse a write, take a part of it, or refuse the
flush that follows, and the limit stops the loop in the midst of a batch. Here one law is shown for all moments of a
loop, whatever its client and its sink do: the writes so far are the first records that polls brought, in order and
one for each, and the count is the number of records whose writing was completed. The invariant behind the law,
`Emitting`, says also what is still to come: while the run goes on, what was brought and not yet written is what the
rest of the batch holds.

## Contents
- **Views.** `writesIn`, `returnedIn`, `AllTaken` and `EndsRefused` read the uses of the sink in a history.
- **The law.** `Emits` at one moment; `Emitting` is the invariant.
- **Steps.** `Formatted.brings` and `Emitting.gives` for one record, `Emitting.moves` for every step of a loop.
- **Stops.** `Moves.of_stopped`: a run that was stopped does nothing more.
- **All moments.** `loop_emits`.
-/

namespace TopicReader

variable {σ : Type}

/-! ## Views of a history -/

namespace Happening

/-- The bytes of a write. -/
def written? : Happening → Option (List UInt8)
  | wrote bytes _ => some bytes
  | _ => none

/-- Is the writing of a record completed with it? The last part of it is the write, or the flush where each write has
    one. -/
def completes (l : Layout) : Happening → Bool
  | called .. => false
  | wrote _ taken => taken && !l.unbuffered
  | flushed taken => taken && l.unbuffered

end Happening

/-- The bytes that the sink was given, write by write. -/
def writesIn (hs : List Happening) : List (List UInt8) := hs.filterMap Happening.written?

/-- The number of records whose writing was completed. -/
def returnedIn (l : Layout) (hs : List Happening) : Nat := hs.countP (·.completes l)

/-- The sink took whatever it was given, and flushed when it was asked to. -/
def AllTaken (hs : List Happening) : Prop := ∀ h ∈ hs, h.isUse = true → h.failed = false

/-- The last thing that happened is the first use of the sink that failed. -/
def EndsRefused (hs : List Happening) : Prop :=
  ∃ before last, hs = before ++ [last] ∧ AllTaken before ∧ last.isUse = true ∧ last.failed = true

@[simp] theorem writesIn_append (hs gs : List Happening) : writesIn (hs ++ gs) = writesIn hs ++ writesIn gs :=
  List.filterMap_append

@[simp] theorem returnedIn_append (l : Layout) (hs gs : List Happening) :
    returnedIn l (hs ++ gs) = returnedIn l hs + returnedIn l gs := List.countP_append

theorem AllTaken.nil : AllTaken [] := List.forall_mem_nil _

theorem AllTaken.append {hs gs : List Happening} (h : AllTaken hs) (g : AllTaken gs) : AllTaken (hs ++ gs) :=
  List.forall_mem_append.mpr ⟨h, g⟩

theorem EndsRefused.after {hs gs : List Happening} (h : AllTaken hs) (g : EndsRefused gs) :
    EndsRefused (hs ++ gs) := by
  obtain ⟨before, last, rfl, htaken, huse, hfailed⟩ := g
  refine ⟨hs ++ before, last, ?_, h.append htaken, huse, hfailed⟩
  rw [List.append_assoc]

/-- Calls give the sink nothing. -/
theorem of_calls (l : Layout) {hs : List Happening} (calls : ∀ h ∈ hs, h.isUse = false) :
    writesIn hs = [] ∧ returnedIn l hs = 0 ∧ AllTaken hs := by
  refine ⟨?_, ?_, ?_⟩
  · refine List.filterMap_eq_nil_iff.mpr fun h hmem => ?_
    match h, calls h hmem with
    | .called .., _ => rfl
  · refine List.countP_eq_zero.mpr fun h hmem => ?_
    match h, calls h hmem with
    | .called .., _ => exact Bool.false_ne_true
  · intro h hmem huse
    rw [calls h hmem] at huse
    cases huse

/-- **Writing one record** is one write of what the layout makes of it. It is completed and counts once, or the last
    part of it failed. -/
theorem Formatted.brings {sink : Sink} {l : Layout} {r : Record} {o out : Output} {hs : List Happening}
    {result : Except Failure Unit} (h : Formatted sink l r o hs result out) :
    itemsIn hs = [] ∧ writesIn hs = [l.render r]
      ∧ match result with
        | .ok () => returnedIn l hs = 1 ∧ AllTaken hs
        | .error _ => returnedIn l hs = 0 ∧ EndsRefused hs := by
  cases h with
  | refused hrefused =>
    refine ⟨rfl, rfl, rfl, [], .wrote (l.render r) false, rfl, .nil, rfl, rfl⟩
  | buffered htaken hbuffered =>
    refine ⟨rfl, rfl, ?_, ?_⟩
    · simp [returnedIn, Happening.completes, hbuffered]
    · intro h hmem _
      rw [List.mem_singleton] at hmem
      subst hmem
      rfl
  | flushed htaken hunbuffered hflushed =>
    refine ⟨rfl, rfl, ?_, ?_⟩
    · simp [returnedIn, Happening.completes, hunbuffered]
    · intro h hmem _
      rcases List.mem_pair.mp hmem with rfl | rfl
      · rfl
      · rfl
  | unflushed htaken hunbuffered hunflushed =>
    refine ⟨rfl, rfl, ?_, [.wrote (l.render r) true], .flushed false, rfl, ?_, rfl, rfl⟩
    · simp [returnedIn, Happening.completes, hunbuffered]
    · intro h hmem _
      rw [List.mem_singleton] at hmem
      subst hmem
      rfl

/-! ## The law -/

/-- The items that a loop still has to deal with, unless it is over. -/
def Phase.rest? : Phase → Option (List Item)
  | asking => some []
  | dealing rest => some rest
  | finished _ => none

namespace Run

/-- **The law of emission** at a moment of a loop, where some records were given to the sink: they are the first ones
    that polls brought, each is one write, those whose writing was completed are counted, and their number stays
    within the limit. All of them are counted, unless writing the last one failed: that is the last thing that
    happened, and the loop is over. -/
structure Emits (l : Layout) (limit : Limit) (hs : List Happening) (m : Moment σ) (written : List Record) : Prop where
  first : written <+: recordsIn (itemsIn hs)
  writes : writesIn hs = written.map l.render
  counted : m.run.received = returnedIn l hs
  bounded : ∀ n, limit = some n → m.run.received ≤ n
  outcome : m.run.received = written.length ∧ AllTaken hs
    ∨ m.run.received + 1 = written.length ∧ EndsRefused hs ∧ ∃ f, m.phase = .finished (.error f)

/-- **The invariant of emission**: besides the law, a run that goes on has written all records but those of the rest
    of its batch, and the limit leaves room for one more. -/
structure Emitting (l : Layout) (limit : Limit) (hs : List Happening) (m : Moment σ) (written : List Record) : Prop
    extends Emits l limit hs m written where
  ahead : ∀ rest, m.phase.rest? = some rest → m.run.standing = .running →
    recordsIn (itemsIn hs) = written ++ recordsIn rest ∧ ∀ n, limit = some n → m.run.received < n

variable {c : Client σ} {sink : Sink} {l : Layout} {limit : Limit} {hs gs : List Happening} {m m' : Moment σ}
  {written : List Record}

/-- Before a loop is over, all that was given to the sink was taken, and is counted. -/
theorem Emits.going (h : Emits l limit hs m written) (going : m.phase.rest? ≠ none) :
    m.run.received = written.length ∧ AllTaken hs := by
  rcases h.outcome with hfine | ⟨-, -, f, hover⟩
  · exact hfine
  · rw [hover] at going
    exact absurd rfl going

/-- Calls leave the law as it is. -/
theorem Emits.calls (h : Emits l limit hs m written) (going : m.phase.rest? ≠ none)
    (calls : ∀ x ∈ gs, x.isUse = false) (received : m'.run.received = m.run.received) :
    Emits l limit (hs ++ gs) m' written := by
  obtain ⟨hlength, htaken⟩ := h.going going
  obtain ⟨hwrites, hreturned, hcalls⟩ := of_calls l calls
  constructor
  · rw [itemsIn_append, recordsIn_append]
    exact h.first.trans (List.prefix_append _ _)
  · rw [writesIn_append, hwrites, List.append_nil]
    exact h.writes
  · rw [received, returnedIn_append, hreturned]
    exact h.counted
  · rw [received]
    exact h.bounded
  · rw [received]
    exact .inl ⟨hlength, htaken.append hcalls⟩

/-- Calls keep the invariant, if it is told what is ahead then. -/
theorem Emitting.calls (h : Emitting l limit hs m written) (going : m.phase.rest? ≠ none)
    (calls : ∀ x ∈ gs, x.isUse = false) (received : m'.run.received = m.run.received)
    (ahead : ∀ rest, m'.phase.rest? = some rest → m'.run.standing = .running →
      recordsIn (itemsIn (hs ++ gs)) = written ++ recordsIn rest ∧ ∀ n, limit = some n → m.run.received < n) :
    ∃ more, Emitting l limit (hs ++ gs) m' (written ++ more) := by
  refine ⟨[], ?_, ?_⟩
  · rw [List.append_nil]
    exact h.toEmits.calls going calls received
  · intro rest hrest hrunning
    rw [List.append_nil, received]
    exact ahead rest hrest hrunning

/-- **The sink is given a record** next: it is the first of those that are still to come, and one write is made of
    it. -/
theorem Emitting.gives {run : Run σ} {r : Record} {rest : List Item}
    (h : Emitting l limit hs ⟨.dealing (.record r :: rest), run⟩ written) (running : run.standing = .running)
    (items : itemsIn gs = []) (writes : writesIn gs = [l.render r]) :
    recordsIn (itemsIn (hs ++ gs)) = (written ++ [r]) ++ recordsIn rest
      ∧ (written ++ [r]) <+: recordsIn (itemsIn (hs ++ gs))
      ∧ writesIn (hs ++ gs) = (written ++ [r]).map l.render := by
  have hnext : recordsIn (itemsIn (hs ++ gs)) = (written ++ [r]) ++ recordsIn rest := by
    obtain ⟨hahead, -⟩ := h.ahead (.record r :: rest) rfl running
    rw [itemsIn_append, items, List.append_nil, hahead, List.append_assoc]
    rfl
  refine ⟨hnext, ?_, ?_⟩
  · rw [hnext]
    exact List.prefix_append _ _
  · rw [writesIn_append, h.writes, writes, List.map_append]
    rfl

/-- **Every step of a loop** keeps the invariant. -/
theorem Emitting.moves (h : Emitting l limit hs m written) (g : Moves sink l limit gs m m') :
    ∃ more, Emitting l limit (hs ++ gs) m' (written ++ more) := by
  cases g with
  | @polled run next is items running received =>
    obtain ⟨hahead, hroom⟩ := h.ahead [] rfl running
    -- A stop beside the poll may have come; what is ahead is the batch all the same.
    refine h.calls (Option.some_ne_none _) (by simp [Happening.isUse]) received ?_
    rintro rest hrest -
    cases hrest
    refine ⟨?_, hroom⟩
    rw [itemsIn_append, recordsIn_append, hahead, List.append_assoc]
    simp [itemsIn, Happening.items, recordsIn]
  | unpolled running received =>
    refine h.calls (Option.some_ne_none _) (by simp [Happening.isUse]) received ?_
    intro rest hrest
    cases hrest
  | left stopped =>
    refine h.calls (Option.some_ne_none _) (List.forall_mem_nil _) rfl ?_
    intro rest hrest
    cases hrest
  | emptied =>
    refine h.calls (Option.some_ne_none _) (List.forall_mem_nil _) rfl ?_
    intro rest hrest hrunning
    cases hrest
    rw [List.append_nil]
    exact h.ahead [] rfl hrunning
  | dropped stopped =>
    -- The rest of a batch is dropped only by a run that was stopped.
    refine h.calls (Option.some_ne_none _) (List.forall_mem_nil _) rfl ?_
    intro rest _ hrunning
    rw [show _ = Standing.running from hrunning] at stopped
    cases stopped
  | @wrote run next r rest _ out running formatted received standing =>
    obtain ⟨hitems, hwrites, hreturned, htaken⟩ := formatted.brings
    obtain ⟨hlength, hall⟩ := h.toEmits.going (Option.some_ne_none _)
    obtain ⟨-, hroom⟩ := h.ahead _ rfl running
    obtain ⟨hnext, hfirst, hgiven⟩ := h.gives running hitems hwrites
    -- The writing was completed, so the record counts; a limit that is reached stops the run.
    refine ⟨[r], ⟨hfirst, hgiven, ?_, ?_, ?_⟩, ?_⟩
    · show next.received = _
      rw [received, returnedIn_append, hreturned, ← h.counted]
    · intro n hn
      show next.received ≤ n
      rw [received]
      exact hroom n hn
    · refine .inl ⟨?_, hall.append htaken⟩
      show next.received = _
      rw [received, List.length_append, ← hlength]
      rfl
    · intro more hmore hrunning
      cases hmore
      refine ⟨hnext, ?_⟩
      rcases standing with ⟨-, hlt⟩ | ⟨hstopped, -⟩
      · exact hlt
      · rw [show next.standing = _ from hrunning] at hstopped
        cases hstopped
  | @refused run next r rest _ out f running formatted received =>
    obtain ⟨hitems, hwrites, hreturned, hrefused⟩ := formatted.brings
    obtain ⟨hlength, hall⟩ := h.toEmits.going (Option.some_ne_none _)
    obtain ⟨-, hfirst, hgiven⟩ := h.gives running hitems hwrites
    -- The bytes were given to the sink, but the record does not count: this is the one that may be missing.
    refine ⟨[r], ⟨hfirst, hgiven, ?_, ?_, ?_⟩, ?_⟩
    · show next.received = _
      rw [received, returnedIn_append, hreturned]
      exact h.counted
    · intro n hn
      show next.received ≤ n
      rw [received]
      exact h.bounded n hn
    · refine .inr ⟨?_, hrefused.after hall, f, rfl⟩
      show next.received + 1 = _
      rw [received, List.length_append, ← hlength]
      rfl
    · intro more hmore
      cases hmore
  | @ended run next topic p o rest running received =>
    refine h.calls (Option.some_ne_none _) (List.forall_mem_nil _) received ?_
    rintro more hmore -
    cases hmore
    rw [List.append_nil]
    exact h.ahead (.ended topic p o :: rest) rfl running
  | broken running =>
    refine h.calls (Option.some_ne_none _) (List.forall_mem_nil _) rfl ?_
    intro rest hrest
    cases hrest
  | stayed =>
    refine ⟨[], ?_⟩
    rw [List.append_nil, List.append_nil]
    exact h

/-! ## Stops -/

/-- **A run that was stopped** does nothing more, and the reason stays. -/
theorem Moves.of_stopped {why : String} (g : Moves sink l limit gs m m') (stopped : m.run.standing = .stopped why) :
    gs = [] ∧ m'.run.standing = .stopped why := by
  cases g with
  | polled running | unpolled running | wrote running | refused running | ended running | broken running =>
    rw [show _ = Standing.running from running] at stopped
    cases stopped
  | left | emptied | dropped | stayed => exact ⟨rfl, stopped⟩

/-! ## All moments -/

/-- The moments of a loop, by their number. -/
def moment (c : Client σ) (sink : Sink) (l : Layout) (limit : Limit) (run : Run σ) (k : Nat) : Moment σ :=
  (run.entering limit).after c sink l limit k

/-- Later moments come after earlier ones. -/
theorem moment_add (run : Run σ) (i j : Nat) :
    run.moment c sink l limit (i + j) = (run.moment c sink l limit i).after c sink l limit j :=
  Moment.after_add _ i j

theorem moment_succ (run : Run σ) (k : Nat) :
    run.moment c sink l limit (k + 1) = (run.moment c sink l limit k).next c sink l limit :=
  Moment.after_succ _ k

/-- A limit that comes from a count leaves room for a record. -/
theorem limit_pos {count : Option Int} {n : Nat} (h : Limit.ofCount count = some n) : 0 < n := by
  unfold Limit.ofCount at h
  split at h
  · rename_i k
    split at h
    · cases h
      omega
    · cases h
  · cases h

/-- The invariant holds at every moment. -/
theorem moment_emitting (c : Client σ) (sink : Sink) (l : Layout) (count : Option Int) (run : Run σ)
    (unread : run.received = 0) (k : Nat) :
    ∃ hs written, Adds c sink hs run (run.moment c sink l (Limit.ofCount count) k).run
      ∧ Emitting l (Limit.ofCount count) hs (run.moment c sink l (Limit.ofCount count) k) written := by
  induction k with
  | zero =>
    have hreceived : (run.moment c sink l (Limit.ofCount count) 0).run.received = 0 := unread
    refine ⟨[], [], ?_, ⟨List.nil_prefix, rfl, hreceived, ?_, .inl ⟨hreceived, .nil⟩⟩, ?_⟩
    · exact (note_passes c sink (by simp [ownKinds]) _ _ run).toAdds
    · intro n _
      rw [hreceived]
      exact Nat.zero_le n
    · intro rest hrest _
      cases hrest
      -- A limit is positive, so there is room for the first record.
      refine ⟨rfl, fun n hn => ?_⟩
      rw [hreceived]
      exact limit_pos hn
  | succ k ih =>
    obtain ⟨hs, written, hadds, hemitting⟩ := ih
    obtain ⟨gs, gadds, hmoves⟩ := next_moves c sink l (Limit.ofCount count)
      (run.moment c sink l (Limit.ofCount count) k)
    obtain ⟨more, hnext⟩ := hemitting.moves hmoves
    rw [moment_succ]
    exact ⟨hs ++ gs, written ++ more, hadds.trans gadds, hnext⟩

/-- Once a run was stopped, nothing happens at later moments. -/
theorem moment_of_stopped (run : Run σ) {i j : Nat} (later : i ≤ j) {why : String}
    (stopped : (run.moment c sink l limit i).run.standing = .stopped why) :
    (run.moment c sink l limit j).run.standing = .stopped why
      ∧ (run.moment c sink l limit j).run.events = (run.moment c sink l limit i).run.events := by
  induction j, later using Nat.le_induction with
  | base => exact ⟨stopped, rfl⟩
  | succ j _ ih =>
    obtain ⟨hstanding, hevents⟩ := ih
    obtain ⟨gs, hadds, hmoves⟩ := next_moves c sink l limit (run.moment c sink l limit j)
    obtain ⟨rfl, hstays⟩ := hmoves.of_stopped hstanding
    rw [moment_succ]
    exact ⟨hstays, hadds.events.trans hevents⟩

/-- Once a loop is over, its moments are all the same. -/
theorem moment_of_finished (run : Run σ) {i j : Nat} (later : i ≤ j) {result : Except Failure Unit}
    (finished : (run.moment c sink l limit i).phase = .finished result) :
    run.moment c sink l limit j = run.moment c sink l limit i := by
  obtain ⟨k, rfl⟩ := Nat.exists_eq_add_of_le later
  rw [moment_add]
  generalize run.moment c sink l limit i = m at finished
  obtain ⟨phase, last⟩ := m
  cases finished
  exact Moment.after_finished result last k

/-- **Emission is safe.** Whatever the client brings, whatever the sink takes, and whoever stops the run: at every
    moment of a loop that has read nothing before, the law of emission holds. A run that was stopped keeps its reason,
    asks for nothing and writes nothing; a loop that is over stays as it is. And what a loop comes to, with any
    number of polls, is one of these moments. -/
theorem loop_emits (c : Client σ) (sink : Sink) (l : Layout) (count : Option Int) (run : Run σ)
    (unread : run.received = 0) :
    let moment := run.moment c sink l (Limit.ofCount count)
    (∀ k, ∃ hs written, Adds c sink hs run (moment k).run ∧ Emits l (Limit.ofCount count) hs (moment k) written)
      ∧ (∀ i j why, i ≤ j → (moment i).run.standing = .stopped why →
          (moment j).run.standing = .stopped why ∧ (moment j).run.events = (moment i).run.events)
      ∧ (∀ i j result, i ≤ j → (moment i).phase = .finished result → moment j = moment i)
      ∧ ∀ fuel, ∃ k, fuel ≤ k ∧ moment k = cameTo (run.loop c sink l (Limit.ofCount count) fuel) := by
  intro moment
  refine ⟨?_, ?_, ?_, ?_⟩
  · intro k
    obtain ⟨hs, written, hadds, hemitting⟩ := moment_emitting c sink l count run unread k
    exact ⟨hs, written, hadds, hemitting.toEmits⟩
  · intro i j why later stopped
    exact moment_of_stopped run later stopped
  · intro i j result later finished
    exact moment_of_finished run later finished
  · intro fuel
    exact loop_reached c sink l (Limit.ofCount count) fuel run

/-- A sink that cannot flush the second record of a batch of three: its bytes were taken, it is not counted, and the
    third one is never written. -/
theorem loop_emits_of_script :
    let record (n : Nat) : Item := .record ⟨"events", 0, n, none, some [0x61]⟩
    let sink : Sink := ⟨fun _ => .all, fun n => if n = 1 then some Script.exhausted else none⟩
    let l : Layout := ⟨[0x0a], none, false, true⟩
    let run := Run.fresh (Script.serving [[record 0, record 1, record 2]]) .empty
    let moment := run.moment Script.client sink l (Limit.ofCount (some 3))
    run.received = 0 ∧ (moment 3).run.received = 1 ∧ (moment 3).run.output.bytes = [0x61, 0x0a, 0x61, 0x0a]
      ∧ (∃ hs written, Adds Script.client sink hs run (moment 3).run
          ∧ Emits l (Limit.ofCount (some 3)) hs (moment 3) written)
      ∧ ∀ j, 3 ≤ j → moment j = moment 3 := by
  intro record sink l run moment
  obtain ⟨hlaw, -, hover, -⟩ := loop_emits Script.client sink l (some 3) run rfl
  refine ⟨rfl, rfl, rfl, hlaw 3, fun j later => ?_⟩
  exact hover 3 j (.error Script.exhausted) later rfl

end Run

end TopicReader
