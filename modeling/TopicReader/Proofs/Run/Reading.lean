import Mathlib.Data.Finset.Card
import TopicReader.Proofs.EndTracker
import TopicReader.Proofs.Run.Calls

/-!
# `Proofs.Run.Reading` — the loop reads its queue item by item

The loop polls for batches, and inside a batch it deals with items until the run stops. Here the same reading
is described without batches and without a state: `Rule.verdict?` says of an item, *given all items before it*,
whether reading ends with it and how, and `Rule.finish?` finds the first such item, or the first stop from
outside, in everything that the loop meets. `Proofs.Run.Loop` shows that the loop does just this.

## Contents
- **The reference.** `Rule`, `Rule.verdict?`, `Rule.finish?`, `Rule.taken`; `Finish` is how reading ends, and `Cue`
  is what a loop meets.
- **Parts.** `finish?_append`, `taken_append`: reading goes on where it stopped.
- **Reading up to the ends.** `mem_endsIn_of_eof`, `recordsIn_taken`: no record and no end is left out.
- **What was read.** `Run.Reads`: the output, the count and the tracker of a run that dealt with some items.
- **Writing a record.** `Formatted` and `format_formats`: what the sink may make of it; `Writes` and `format_writes`:
  the same by the rule.
-/

namespace TopicReader

/-! ## The reference -/

/-- How reading ends: the run is stopped for a reason, or something fails. -/
inductive Finish where
  | stopped (reason : String)
  | broken (f : Failure)

namespace Finish

/-- What the loop comes to. -/
def result : Finish → Except Failure Unit
  | stopped _ => .ok ()
  | broken f => .error f

/-- The reason for which the run was stopped, if it was. -/
def reason? : Finish → Option String
  | stopped reason => some reason
  | broken _ => none

/-- What dealing with items comes to: nothing comes of them as long as reading goes on. -/
def resultOf (finish : Option Finish) : Except Failure Unit := (finish.map result).getD (.ok ())

end Finish

namespace Item

/-- The record that an item is. -/
def record? : Item → Option Record
  | record r => some r
  | _ => none

/-- The partition whose end an item is. -/
def end? : Item → Option Int
  | ended _ p _ => some p
  | _ => none

end Item

/-- The records among items. -/
def recordsIn (items : List Item) : List Record := items.filterMap Item.record?

/-- The partitions whose end is among items. -/
def endsIn (items : List Item) : Finset Int := (items.filterMap Item.end?).toFinset

/-- What a write comes to. -/
def Sink.writeRefusal? (sink : Sink) (number : Nat) (size : Nat) (r : Record) : Option Failure :=
  match sink.accept number with
  | .all => none
  | .silent => none
  | .part count =>
    if count = size then none else some (.classified (.shortWrite count size r.partition r.offset))
  | .refused f => some (Output.writeFailure size r f)

/-- What decides how reading ends: the partitions in scope, whether one of them is enough and whether ends
    count, the limit, and the sink with the layout of what it is given. -/
structure Rule where
  scope : List Int
  single : Bool
  active : Bool
  limit : Limit
  sink : Sink
  layout : Layout

namespace Rule

/-- What writing a record comes to when some records were written before it: with an unbuffered layout each
    write has its flush. -/
def refusal? (rule : Rule) (number : Nat) (r : Record) : Option Failure :=
  (rule.sink.writeRefusal? number (rule.layout.render r).length r).or
    (if rule.layout.unbuffered then (rule.sink.flushing number).map Output.flushFailure else none)

/-- Is a number of records at the limit? -/
def isFull (rule : Rule) (number : Nat) : Bool :=
  match rule.limit with
  | some n => n ≤ number
  | none => false

/-- The ends that count among items: those of partitions in scope. -/
def ends (rule : Rule) (items : List Item) : Finset Int :=
  EndTracker.counted rule.scope rule.active (endsIn items)

/-- **Does reading end with an item**, after those before it? A record ends it with a refusal of the sink or at
    the limit, the end of a partition as the last one that it takes, and whatever is no part of a stream at
    once. -/
def verdict? (rule : Rule) (seen : List Item) (item : Item) : Option Finish :=
  match item with
  | .record r =>
    match rule.refusal? (recordsIn seen).length r with
    | some f => some (.broken f)
    | none => if rule.isFull ((recordsIn seen).length + 1) then some (.stopped "limit") else none
  | .ended .. =>
    if (rule.ends seen).card < (rule.ends (seen ++ [item])).card
        ∧ EndTracker.goal rule.scope rule.single ≤ (rule.ends (seen ++ [item])).card then
      some (.stopped "eof")
    else none
  | .failed topic p f => some (.broken (f.ofStream topic p []))
  | .alien v => some (.broken (Run.unexpected v))

end Rule

/-- What a loop meets, one after the other: a stop from outside, or an item. -/
inductive Cue where
  | stop (reason : String)
  | item (i : Item)

/-- What a loop meets with one happening: the stops beside a poll come before its items. -/
def Happening.cues (h : Happening) : List Cue := h.stops.map .stop ++ h.items.map .item

/-- What a loop meets in a history. -/
def cuesIn (hs : List Happening) : List Cue := hs.flatMap Happening.cues

/-- The items that polls brought, in order. -/
def itemsIn (hs : List Happening) : List Item := hs.flatMap Happening.items

/-- **How reading ends**: with the first stop or the first item that ends it. -/
def Rule.finish? (rule : Rule) (seen : List Item) : List Cue → Option Finish
  | [] => none
  | .stop reason :: _ => some (.stopped reason)
  | .item i :: rest => (rule.verdict? seen i).or (rule.finish? (seen ++ [i]) rest)

/-- The items that are read: all of them up to the one that reading ends with, or up to a stop. -/
def Rule.taken (rule : Rule) (seen : List Item) : List Cue → List Item
  | [] => []
  | .stop _ :: _ => []
  | .item i :: rest => if (rule.verdict? seen i).isSome then [i] else i :: rule.taken (seen ++ [i]) rest

/-- A rule whose sink takes every write and every flush. -/
def Rule.Works (rule : Rule) : Prop := ∀ number r, rule.refusal? number r = none

/-- The item that a cue is. -/
def Cue.item? : Cue → Option Item
  | .stop _ => none
  | .item i => some i

theorem filterMap_item? (items : List Item) : (items.map Cue.item).filterMap Cue.item? = items := by
  rw [List.filterMap_map]; exact List.filterMap_some

theorem recordsIn_append (is js : List Item) : recordsIn (is ++ js) = recordsIn is ++ recordsIn js :=
  List.filterMap_append

theorem endsIn_append (is js : List Item) : endsIn (is ++ js) = endsIn is ∪ endsIn js := by
  rw [endsIn, List.filterMap_append, List.toFinset_append]; rfl

theorem cuesIn_append (hs gs : List Happening) : cuesIn (hs ++ gs) = cuesIn hs ++ cuesIn gs :=
  List.flatMap_append

theorem itemsIn_append (hs gs : List Happening) : itemsIn (hs ++ gs) = itemsIn hs ++ itemsIn gs :=
  List.flatMap_append

/-- Where nothing is transferred, only stops are met. -/
theorem cuesIn_of_calls {hs : List Happening} (h : ∀ x ∈ hs, x.event.stage ≠ .transfer) :
    cuesIn hs = (hs.flatMap Happening.stops).map .stop := by
  induction hs with
  | nil => rfl
  | cons x rest ih =>
    have hitems : x.items = [] := by
      have hstage := h x List.mem_cons_self
      match x with
      | .called .poll _ => exact absurd rfl hstage
      | .called .start _ | .called .stop _ | .called (.fetch ..) _ | .called (.openStream ..) _
      | .called (.closeStream ..) _ | .wrote .. | .flushed _ => rfl
    have hrest := ih fun y hy => h y (List.mem_cons_of_mem _ hy)
    rw [cuesIn, List.flatMap_cons, ← cuesIn, hrest, Happening.cues, hitems, List.flatMap_cons, List.map_append]
    simp

/-- Where nobody stops the run, items are all that is met. -/
theorem cuesIn_of_calm {hs : List Happening} (calm : ∀ x ∈ hs, x.stops = []) :
    stopIn hs = none ∧ cuesIn hs = (itemsIn hs).map .item := by
  constructor
  · rw [stopIn, List.flatMap_eq_nil_iff.mpr calm]; rfl
  · induction hs with
    | nil => rfl
    | cons x rest ih =>
      obtain ⟨hx, hrest⟩ := List.forall_mem_cons.mp calm
      rw [cuesIn, List.flatMap_cons, ← cuesIn, ih hrest, Happening.cues, hx, itemsIn, itemsIn, List.flatMap_cons,
        List.map_append]
      rfl

/-- Whoever uses the sink meets nothing. -/
theorem SinkOnly.cuesIn_eq_nil {hs : List Happening} (h : SinkOnly hs) : cuesIn hs = [] := by
  refine List.flatMap_eq_nil_iff.mpr fun x hx => ?_
  match x, h x hx with
  | .wrote .., _ | .flushed _, _ => rfl

namespace Rule

variable {rule : Rule}

theorem verdict?_of_refused {seen : List Item} {r : Record} {f : Failure}
    (h : rule.refusal? (recordsIn seen).length r = some f) :
    rule.verdict? seen (.record r) = some (.broken f) := by
  simp only [verdict?, h]

theorem verdict?_of_taken {seen : List Item} {r : Record}
    (h : rule.refusal? (recordsIn seen).length r = none) :
    rule.verdict? seen (.record r)
      = if rule.isFull ((recordsIn seen).length + 1) then some (.stopped "limit") else none := by
  simp only [verdict?, h]

theorem verdict?_ended (seen : List Item) (topic : String) (p o : Int) :
    rule.verdict? seen (.ended topic p o)
      = if (rule.ends seen).card < (rule.ends (seen ++ [.ended topic p o])).card
          ∧ EndTracker.goal rule.scope rule.single ≤ (rule.ends (seen ++ [.ended topic p o])).card then
        some (.stopped "eof")
      else none := rfl

/-- A record ends reading with a failure or at the limit. -/
theorem verdict?_record_ne_eof (seen : List Item) (r : Record) :
    rule.verdict? seen (.record r) ≠ some (.stopped "eof") := by
  intro h
  cases hrefusal : rule.refusal? (recordsIn seen).length r with
  | some f =>
    rw [verdict?_of_refused hrefusal] at h
    cases h
  | none =>
    rw [verdict?_of_taken hrefusal] at h
    split at h
    · simp at h
    · cases h

theorem finish?_append (seen : List Item) (a b : List Cue) :
    rule.finish? seen (a ++ b)
      = (rule.finish? seen a).or (rule.finish? (seen ++ a.filterMap Cue.item?) b) := by
  induction a generalizing seen with
  | nil => simp [finish?]
  | cons x rest ih =>
    cases x with
    | stop reason => rfl
    | item i => simp [finish?, ih, Cue.item?, Option.or_assoc, List.append_assoc]

/-- As long as reading goes on, everything that comes is read. -/
theorem taken_eq_of_finish?_eq_none {seen : List Item} {cues : List Cue} (h : rule.finish? seen cues = none) :
    rule.taken seen cues = cues.filterMap Cue.item? := by
  induction cues generalizing seen with
  | nil => rfl
  | cons x rest ih =>
    cases x with
    | stop reason => exact absurd h (by simp [finish?])
    | item i =>
      obtain ⟨hnone, hrest⟩ := Option.or_eq_none_iff.mp h
      rw [taken, hnone, ih hrest]
      rfl

theorem finish?_item (seen : List Item) (i : Item) (rest : List Cue) :
    rule.finish? seen (.item i :: rest) = (rule.verdict? seen i).or (rule.finish? (seen ++ [i]) rest) := rfl

/-- What follows a part of what comes is read if reading goes on after that part. -/
theorem taken_append (seen : List Item) (a b : List Cue) :
    rule.taken seen (a ++ b) = rule.taken seen a
      ++ if (rule.finish? seen a).isSome then [] else rule.taken (seen ++ a.filterMap Cue.item?) b := by
  induction a generalizing seen with
  | nil => simp [finish?, taken]
  | cons x rest ih =>
    cases x with
    | stop reason => simp [finish?, taken]
    | item i =>
      rw [List.cons_append, taken, taken, finish?_item]
      cases hverdict : rule.verdict? seen i with
      | some fin => simp
      | none => simp [ih, Cue.item?, List.append_assoc]

/-- Of the stops beside calls that transfer nothing the first one counts. -/
theorem finish?_calls (seen : List Item) {hs : List Happening} (h : ∀ x ∈ hs, x.event.stage ≠ .transfer)
    (rest : List Cue) :
    rule.finish? seen (cuesIn hs ++ rest) = ((stopIn hs).map .stopped).or (rule.finish? seen rest) := by
  rw [cuesIn_of_calls h, stopIn]
  cases hs.flatMap Happening.stops <;> rfl

/-! ## Reading up to the ends -/

/-- What is read is a beginning of what comes. -/
theorem taken_begins (rule : Rule) (seen : List Item) (cues : List Cue) :
    rule.taken seen cues <+: cues.filterMap Cue.item? := by
  induction cues generalizing seen with
  | nil => exact List.prefix_refl _
  | cons x rest ih =>
    cases x with
    | stop reason => exact List.nil_prefix
    | item i =>
      rw [taken]
      split
      · exact ⟨rest.filterMap Cue.item?, rfl⟩
      · exact List.cons_prefix_cons.mpr ⟨rfl, ih (seen ++ [i])⟩

/-- Without a limit, and with a sink that works, reading does not end with a record. -/
theorem finish?_records (unlimited : rule.limit = none) (works : rule.Works) (seen : List Item)
    (records : List Record) : rule.finish? seen ((records.map Item.record).map .item) = none := by
  induction records generalizing seen with
  | nil => rfl
  | cons r rest ih =>
    have hnone : rule.verdict? seen (.record r) = none := by
      rw [verdict?_of_taken (works _ r), isFull, unlimited]; rfl
    rw [List.map_cons, List.map_cons, finish?_item, hnone, ih]; rfl

/-- Of a batch that has its records before all else, every record is read. -/
theorem recordsIn_taken (unlimited : rule.limit = none) (works : rule.Works) (seen : List Item)
    {records : List Record} {ends : List Item} (none : recordsIn ends = []) :
    recordsIn (rule.taken seen ((records.map Item.record ++ ends).map .item))
      = recordsIn (records.map .record ++ ends) := by
  have hfinish := finish?_records unlimited works seen records
  obtain ⟨rest, hrest⟩ := rule.taken_begins (seen ++ records.map .record) (ends.map .item)
  rw [filterMap_item?] at hrest
  have htaken : recordsIn (rule.taken (seen ++ records.map Item.record) (ends.map .item)) = [] := by
    rw [← hrest, recordsIn_append, List.append_eq_nil_iff] at none
    exact none.1
  rw [List.map_append, taken_append, hfinish, taken_eq_of_finish?_eq_none hfinish, filterMap_item?]
  simp only [Option.isSome_none, Bool.false_eq_true, if_false]
  rw [recordsIn_append, recordsIn_append, htaken, none]

/-- Where reading ends with an end, the ends that were read are as many as it takes. -/
theorem goal_le_of_eof {seen : List Item} {cues : List Cue} (calm : ∀ x ∈ cues, x.item?.isSome = true)
    (eof : rule.finish? seen cues = some (.stopped "eof")) :
    EndTracker.goal rule.scope rule.single ≤ (rule.ends (seen ++ rule.taken seen cues)).card := by
  induction cues generalizing seen with
  | nil => cases eof
  | cons x rest ih =>
    cases x with
    | stop reason => cases calm _ List.mem_cons_self
    | item i =>
      rw [finish?_item] at eof
      rw [taken]
      cases hverdict : rule.verdict? seen i with
      | none =>
        rw [hverdict] at eof
        have hrest := ih (fun y hy => calm y (List.mem_cons_of_mem _ hy)) eof
        rw [List.append_assoc] at hrest
        exact hrest
      | some fin =>
        rw [hverdict] at eof
        cases eof
        -- Of all items only an end of a partition stops a run in this way.
        cases i with
        | ended topic p offset =>
          rw [verdict?_ended] at hverdict
          split at hverdict
          · rename_i hgoal
            exact hgoal.2
          · cases hverdict
        | record r => exact absurd hverdict (verdict?_record_ne_eof seen r)
        | failed topic p f => cases hverdict
        | alien v => cases hverdict

/-- **Where reading ends with an end**, every partition in scope is at its end. One end alone is enough only where
    there is only one partition. -/
theorem mem_endsIn_of_eof {cues : List Cue} (active : rule.active = true)
    (alone : rule.single = true → rule.scope.length ≤ 1) (calm : ∀ x ∈ cues, x.item?.isSome = true)
    (eof : rule.finish? [] cues = some (.stopped "eof")) :
    ∀ p ∈ rule.scope, p ∈ endsIn (cues.filterMap Cue.item?) := by
  have hgoal := goal_le_of_eof calm eof
  rw [ends, active, List.nil_append] at hgoal
  obtain ⟨rest, hrest⟩ := rule.taken_begins [] cues
  intro p hp
  rw [← hrest, endsIn_append]
  exact Finset.mem_union_left _ (EndTracker.mem_of_goal_le alone hgoal p hp)

/-- Reading does not go past a failure. -/
theorem finish?_isSome_of_failed (rule : Rule) (seen : List Item) {cues : List Cue} {topic : String}
    {p : Option Int} {f : Failure} (h : .item (.failed topic p f) ∈ cues) :
    (rule.finish? seen cues).isSome = true := by
  induction cues generalizing seen with
  | nil => cases h
  | cons x rest ih =>
    cases x with
    | stop reason => rfl
    | item i =>
      rw [finish?_item, Option.isSome_or, Bool.or_eq_true]
      rcases List.mem_cons.mp h with heq | hmem
      · cases heq
        exact .inl rfl
      · exact .inr (ih (seen ++ [i]) hmem)

/-! ## What was read -/

/-- The output after some items were dealt with: the records are written, each in one piece. -/
def output (rule : Rule) (seen : List Item) : Output where
  accepted := ((recordsIn seen).map rule.layout.render).reverse
  writes := (recordsIn seen).length
  flushes := if rule.layout.unbuffered then (recordsIn seen).length else 0

end Rule

namespace Run

variable {σ : Type} {c : Client σ} {rule : Rule}

/-- **The run dealt with some items.** -/
structure Reads (rule : Rule) (seen : List Item) (run : Run σ) : Prop where
  output : run.output = rule.output seen
  received : run.received = (recordsIn seen).length
  tracker : EndTracker.Holds rule.scope rule.single rule.active (endsIn seen) run.tracker

/-- What holds no record and no end leaves everything as it was. -/
theorem Reads.append {seen items : List Item} {run : Run σ} (h : Reads rule seen run)
    (records : recordsIn items = []) (ends : endsIn items = ∅) : Reads rule (seen ++ items) run where
  output := by rw [h.output, Rule.output, Rule.output, recordsIn_append, records, List.append_nil]
  received := by rw [h.received, recordsIn_append, records, List.append_nil]
  tracker := by rw [endsIn_append, ends, Finset.union_empty]; exact h.tracker

/-- Calls leave what was read as it was. -/
theorem Reads.passes {seen : List Item} {sink : Sink} {hs : List Happening} {run run' : Run σ}
    (h : Reads rule seen run) (g : Passes c sink hs run run') : Reads rule seen run' where
  output := g.output.trans h.output
  received := g.received.trans h.received
  tracker := by rw [g.tracker]; exact h.tracker

/-- A run that has not read yet. -/
theorem Reads.nil {run : Run σ} (output : run.output = .empty) (received : run.received = 0)
    (tracker : run.tracker = .ofPartitions rule.scope rule.single rule.active) : Reads rule [] run where
  output := by rw [output, Rule.output, recordsIn]; split <;> rfl
  received := received
  tracker := tracker ▸ EndTracker.ofPartitions_holds _ _ _

end Run

/-! ## Writing a record -/

theorem Sink.takes_eq (sink : Sink) (number : Nat) (bytes : List UInt8) (r : Record) :
    sink.takes number bytes = (sink.writeRefusal? number bytes.length r).isNone := by
  unfold takes writeRefusal?
  cases sink.accept number with
  | all => rfl
  | silent => rfl
  | part count => by_cases hcount : count = bytes.length <;> simp [hcount]
  | refused f => rfl

namespace Output

variable {sink : Sink} {l : Layout} {r : Record}

/-- A refused write ends the writing of a record before any flush. -/
theorem format_refused {o : Output} {f : Failure}
    (h : sink.writeRefusal? o.writes (l.render r).length r = some f) :
    ∃ accepted, o.format sink l r = (.error f, ⟨accepted, o.writes + 1, o.flushes⟩) := by
  unfold Sink.writeRefusal? at h
  unfold format write
  cases haccept : sink.accept o.writes with
  | all => simp [haccept] at h
  | silent => simp [haccept] at h
  | part count =>
    by_cases hcount : count = (l.render r).length
    · simp [haccept, hcount] at h
    · simp only [haccept, if_neg hcount, Option.some.injEq] at h
      exact ⟨upTo count (l.render r) :: o.accepted, by simp only [fallsShort, if_neg hcount, h]⟩
  | refused g =>
    simp only [haccept, Option.some.injEq] at h
    subst h
    exact ⟨o.accepted, rfl⟩

/-- A write that is taken puts all bytes behind what was accepted before; a flush may follow. -/
theorem format_taken {o : Output} (h : sink.writeRefusal? o.writes (l.render r).length r = none) :
    o.format sink l r =
      if l.unbuffered then
        (match sink.flushing o.flushes with
          | none => .ok (l.render r)
          | some f => .error (flushFailure f),
         ⟨l.render r :: o.accepted, o.writes + 1, o.flushes + 1⟩)
      else (.ok (l.render r), ⟨l.render r :: o.accepted, o.writes + 1, o.flushes⟩) := by
  unfold Sink.writeRefusal? at h
  unfold format write
  cases haccept : sink.accept o.writes with
  | all =>
    simp only [fallsShort, if_true, flush]
    cases sink.flushing o.flushes <;> rfl
  | silent =>
    simp only [fallsShort, flush]
    cases sink.flushing o.flushes <;> rfl
  | part count =>
    by_cases hcount : count = (l.render r).length
    · have hall : upTo count (l.render r) = l.render r := by
        rw [hcount, upTo, if_neg (by omega)]; simp
      simp only [fallsShort, if_pos hcount, flush, hall]
      cases sink.flushing o.flushes <;> rfl
    · simp [haccept, hcount] at h
  | refused g => simp [haccept] at h

end Output

/-- **Writing a record**, from one output to another one, with what it adds to a history: the sink refuses the write,
    it takes the write and no flush is asked for, or it takes the write and is asked to flush. -/
inductive Formatted (sink : Sink) (l : Layout) (r : Record) (o : Output) :
    List Happening → Except Failure Unit → Output → Prop where
  | refused {accepted : List (List UInt8)} {f : Failure}
    (refused : sink.writeRefusal? o.writes (l.render r).length r = some f) :
    Formatted sink l r o [.wrote (l.render r) false] (.error f) ⟨accepted, o.writes + 1, o.flushes⟩
  | buffered (taken : sink.writeRefusal? o.writes (l.render r).length r = none) (buffered : l.unbuffered = false) :
    Formatted sink l r o [.wrote (l.render r) true] (.ok ()) ⟨l.render r :: o.accepted, o.writes + 1, o.flushes⟩
  | flushed (taken : sink.writeRefusal? o.writes (l.render r).length r = none) (unbuffered : l.unbuffered = true)
    (flushed : sink.flushing o.flushes = none) :
    Formatted sink l r o [.wrote (l.render r) true, .flushed true] (.ok ())
      ⟨l.render r :: o.accepted, o.writes + 1, o.flushes + 1⟩
  | unflushed {f : Failure} (taken : sink.writeRefusal? o.writes (l.render r).length r = none)
    (unbuffered : l.unbuffered = true) (unflushed : sink.flushing o.flushes = some f) :
    Formatted sink l r o [.wrote (l.render r) true, .flushed false] (.error (Output.flushFailure f))
      ⟨l.render r :: o.accepted, o.writes + 1, o.flushes + 1⟩

/-- A write that the sink does not take, or one that it takes. -/
theorem Sink.takes_of_writeRefusal? {sink : Sink} {number : Nat} {bytes : List UInt8} {r : Record}
    {refusal : Option Failure} (h : sink.writeRefusal? number bytes.length r = refusal) :
    sink.takes number bytes = refusal.isNone := by
  rw [Sink.takes_eq sink number bytes r, h]

/-- What writing a record adds to a history: the write, and a flush if the write was taken and the layout is
    unbuffered. -/
def Rule.written (rule : Rule) (number : Nat) (r : Record) : List Happening :=
  .wrote (rule.layout.render r) (rule.sink.takes number (rule.layout.render r)) ::
    if rule.sink.takes number (rule.layout.render r) && rule.layout.unbuffered then
      [.flushed (rule.sink.flushing number).isNone]
    else []

namespace Run

/-- What writing a record is to come to, by the rule. -/
structure Writes (c : Client σ) (rule : Rule) (seen : List Item) (r : Record) (run : Run σ)
    (outcome : Except Failure Unit × Run σ) : Prop where
  adds : Adds c rule.sink (rule.written (recordsIn seen).length r) run outcome.2
  result : outcome.1 = match rule.refusal? (recordsIn seen).length r with
    | some f => .error f
    | none => .ok ()
  output : rule.refusal? (recordsIn seen).length r = none → outcome.2.output = rule.output (seen ++ [.record r])

/-- The output of a run is that of the rule, number by number. -/
theorem Reads.counts {seen : List Item} {run : Run σ} (h : Reads rule seen run) :
    run.output.writes = (recordsIn seen).length
      ∧ run.output.flushes = (if rule.layout.unbuffered then (recordsIn seen).length else 0)
      ∧ run.output.accepted = ((recordsIn seen).map rule.layout.render).reverse := by
  rw [h.output]
  exact ⟨rfl, rfl, rfl⟩

/-- The output after one more record. -/
theorem output_snoc (rule : Rule) (seen : List Item) (r : Record) :
    rule.output (seen ++ [.record r]) = ⟨rule.layout.render r :: ((recordsIn seen).map rule.layout.render).reverse,
      (recordsIn seen).length + 1, if rule.layout.unbuffered then (recordsIn seen).length + 1 else 0⟩ := by
  have hnext : recordsIn (seen ++ [.record r]) = recordsIn seen ++ [r] := recordsIn_append seen [.record r]
  simp [Rule.output, hnext]

/-- **Writing a record** is one of these, whatever was written before. -/
theorem format_formats (c : Client σ) (sink : Sink) (l : Layout) (r : Record) (run : Run σ) :
    ∃ hs, Adds c sink hs run (run.format sink l r).2
      ∧ Formatted sink l r run.output hs (run.format sink l r).1 (run.format sink l r).2.output := by
  cases hwrite : sink.writeRefusal? run.output.writes (l.render r).length r with
  | some f =>
    obtain ⟨accepted, heq⟩ := Output.format_refused hwrite
    have htakes := Sink.takes_of_writeRefusal? hwrite
    have hrun : run.format sink l r = (.error f,
        { run with
          output := ⟨accepted, run.output.writes + 1, run.output.flushes⟩
          events := .write (l.render r) :: run.events }) := by
      simp only [format, heq, if_true]; rfl
    rw [hrun]
    refine ⟨_, ⟨rfl, ?_, rfl, fun _ _ => rfl⟩, .refused hwrite⟩
    simp [Happening.event, Sides.history, Sides.meet, sides, htakes]
  | none =>
    have heq := Output.format_taken hwrite
    have htakes := Sink.takes_of_writeRefusal? hwrite
    cases hunbuffered : l.unbuffered with
    | false =>
      rw [hunbuffered, if_neg Bool.false_ne_true] at heq
      have hrun : run.format sink l r = (.ok (),
          { run with
            output := ⟨l.render r :: run.output.accepted, run.output.writes + 1, run.output.flushes⟩
            events := .write (l.render r) :: run.events }) := by
        simp only [format, heq, if_true]; rfl
      rw [hrun]
      refine ⟨_, ⟨rfl, ?_, rfl, fun _ _ => rfl⟩, .buffered hwrite hunbuffered⟩
      simp [Happening.event, Sides.history, Sides.meet, sides, htakes]
    | true =>
      rw [hunbuffered, if_pos rfl] at heq
      have hrun : run.format sink l r =
          ((match sink.flushing run.output.flushes with
            | none => .ok ()
            | some f => .error (Output.flushFailure f)),
          { run with
            output := ⟨l.render r :: run.output.accepted, run.output.writes + 1, run.output.flushes + 1⟩
            events := .flush :: .write (l.render r) :: run.events }) := by
        simp only [format, heq]
        cases sink.flushing run.output.flushes <;> simp [Except.map]
      rw [hrun]
      cases hflush : sink.flushing run.output.flushes with
      | none =>
        refine ⟨_, ⟨rfl, ?_, rfl, fun _ _ => rfl⟩, .flushed hwrite hunbuffered hflush⟩
        simp [Happening.event, Sides.history, Sides.meet, sides, htakes, hflush]
      | some f =>
        refine ⟨_, ⟨rfl, ?_, rfl, fun _ _ => rfl⟩, .unflushed hwrite hunbuffered hflush⟩
        simp [Happening.event, Sides.history, Sides.meet, sides, htakes, hflush]

variable {seen : List Item} {run : Run σ} {r : Record}

/-- **Writing a record** after some others goes as the rule has it. -/
theorem format_writes (h : Reads rule seen run) (r : Record) :
    Writes c rule seen r run (run.format rule.sink rule.layout r) := by
  obtain ⟨hs, hadds, hformatted⟩ := format_formats c rule.sink rule.layout r run
  obtain ⟨hwrites, hflushes, haccepted⟩ := h.counts
  generalize run.format rule.sink rule.layout r = outcome at hadds hformatted ⊢
  obtain ⟨result, next⟩ := outcome
  dsimp only at hadds hformatted
  generalize hout : next.output = out at hformatted
  cases hformatted with
  | @refused accepted f hrefused =>
    rw [hwrites] at hrefused
    have hrefusal : rule.refusal? (recordsIn seen).length r = some f := by
      rw [Rule.refusal?, hrefused]; rfl
    have hwritten : rule.written (recordsIn seen).length r = [.wrote (rule.layout.render r) false] := by
      simp only [Rule.written, Sink.takes_of_writeRefusal? hrefused]; rfl
    refine ⟨hwritten ▸ hadds, by rw [hrefusal], fun hnone => ?_⟩
    rw [hrefusal] at hnone
    cases hnone
  | buffered htaken hbuffered =>
    rw [hwrites] at htaken
    have hrefusal : rule.refusal? (recordsIn seen).length r = none := by
      rw [Rule.refusal?, htaken, hbuffered]; rfl
    have hwritten : rule.written (recordsIn seen).length r = [.wrote (rule.layout.render r) true] := by
      simp [Rule.written, Sink.takes_of_writeRefusal? htaken, hbuffered]
    refine ⟨hwritten ▸ hadds, by rw [hrefusal], fun _ => ?_⟩
    rw [hbuffered, if_neg Bool.false_ne_true] at hflushes
    rw [hout, output_snoc, hbuffered, if_neg Bool.false_ne_true, haccepted, hwrites, hflushes]
  | flushed htaken hunbuffered hflushed =>
    rw [hunbuffered, if_pos rfl] at hflushes
    rw [hwrites] at htaken
    rw [hflushes] at hflushed
    have hrefusal : rule.refusal? (recordsIn seen).length r = none := by
      rw [Rule.refusal?, htaken, hunbuffered, hflushed]; rfl
    have hwritten : rule.written (recordsIn seen).length r
        = [.wrote (rule.layout.render r) true, .flushed true] := by
      simp [Rule.written, Sink.takes_of_writeRefusal? htaken, hunbuffered, hflushed]
    refine ⟨hwritten ▸ hadds, by rw [hrefusal], fun _ => ?_⟩
    rw [hout, output_snoc, if_pos hunbuffered, haccepted, hwrites, hflushes]
  | @unflushed f htaken hunbuffered hunflushed =>
    rw [hunbuffered, if_pos rfl] at hflushes
    rw [hwrites] at htaken
    rw [hflushes] at hunflushed
    have hrefusal : rule.refusal? (recordsIn seen).length r = some (Output.flushFailure f) := by
      rw [Rule.refusal?, htaken, hunbuffered, hunflushed]; rfl
    have hwritten : rule.written (recordsIn seen).length r
        = [.wrote (rule.layout.render r) true, .flushed false] := by
      simp [Rule.written, Sink.takes_of_writeRefusal? htaken, hunbuffered, hunflushed]
    refine ⟨hwritten ▸ hadds, by rw [hrefusal], fun hnone => ?_⟩
    rw [hrefusal] at hnone
    cases hnone

end Run

end TopicReader
