import TopicReader.Proofs.Transport.Polling

/-!
# `Proofs.Transport.Session` — streams are opened, closed and read in any order

Whoever uses a transport may open streams, close them, open them again with another start, and read what is open at
any time; the calls may fail. `session` makes such calls one after the other and tells what came of each of them.
`Performs` says once what one call can do, and `session_induction` carries what each call preserves to all of them.

## Contents
- **Calls.** `StreamCall`, `Transport.perform`, `Transport.session` with `Served` for each call.
- **Steps.** `Performs`, and `perform_performs` for every call.
- **Consistency.** `Consistent`: what holds of the streams at all times; `performs_consistent`.
- **Runs.** `session_induction`.
-/

namespace TopicReader

variable {ν : Type}

/-! ## Calls -/

/-- A call that opens, closes or reads the streams of a transport. -/
inductive StreamCall where
  | openStream (topic : String) (partition : Int) (start : StartPoint)
  | closeStream (topic : String) (partition : Int)
  | poll (seconds : Double)

/-- A call with what came of it: the items of a poll, nothing of the other calls, or a failure. -/
structure Served where
  call : StreamCall
  result : Except Failure (List Item)

namespace Transport

/-- A call that brings no items. -/
def withoutItems (outcome : Except Failure Unit × Transport ν) : Except Failure (List Item) × Transport ν :=
  (outcome.1.map fun _ => [], outcome.2)

/-- Make a call. -/
def perform (n : Network ν) (o : TransportOptions) (call : StreamCall) (t : Transport ν) :
    Except Failure (List Item) × Transport ν :=
  match call with
  | .openStream topic p start => withoutItems (t.openStream n topic p start)
  | .closeStream topic p => withoutItems (t.closeStream n topic p)
  | .poll seconds => t.poll n o seconds

/-- Make calls one after the other, whatever comes of each. -/
def session (n : Network ν) (o : TransportOptions) : List StreamCall → Transport ν → List Served × Transport ν
  | [], t => ([], t)
  | call :: rest, t =>
    let (result, t) := t.perform n o call
    let (others, t) := session n o rest t
    (⟨call, result⟩ :: others, t)

/-- What came of calls. -/
def served (n : Network ν) (o : TransportOptions) (calls : List StreamCall) (t : Transport ν) : List Served :=
  (session n o calls t).1

/-- A transport after calls. -/
def afterCalls (n : Network ν) (o : TransportOptions) (calls : List StreamCall) (t : Transport ν) : Transport ν :=
  (session n o calls t).2

variable {n : Network ν} {o : TransportOptions}

/-! ## Steps -/

/-- A close of an open stream takes it out and asks for a pause, whatever comes of that. -/
structure Closes (n : Network ν) (tp : TopicPartition) (t t' : Transport ν) : Prop where
  asked : Asked n [.pause tp] t t'
  streams : t'.streams = t.streams.filter (·.1 ≠ tp)
  ended : t'.ended = t.ended.filter (· ≠ tp)
  hasConsumer : t'.hasConsumer = t.hasConsumer

/-- **What a call can do**: an open adds a stream or leaves everything as it was, a close takes an open stream out or
    does nothing, and a poll reads. -/
inductive Performs (n : Network ν) (o : TransportOptions) (t : Transport ν) :
    StreamCall → Except Failure (List Item) → Transport ν → Prop where
  | opened {topic : String} {p : Int} {start : StartPoint} {ps : List Request} {t' : Transport ν}
    (opens : Opens n ⟨topic, p⟩ start ps t t') : Performs n o t (.openStream topic p start) (.ok []) t'
  | unopened {topic : String} {p : Int} {start : StartPoint} {f : Failure} {t' : Transport ν}
    (leaves : Leaves n t t') : Performs n o t (.openStream topic p start) (.error f) t'
  | closed {topic : String} {p : Int} {result : Except Failure (List Item)} {t' : Transport ν}
    (isOpen : ⟨topic, p⟩ ∈ t.streams.map (·.1)) (closes : Closes n ⟨topic, p⟩ t t') :
    Performs n o t (.closeStream topic p) result t'
  | unclosed {topic : String} {p : Int} (isClosed : ⟨topic, p⟩ ∉ t.streams.map (·.1)) :
    Performs n o t (.closeStream topic p) (.ok []) t
  | polled {seconds : Double} {result : Except Failure (List Item)} {t' : Transport ν}
    (polls : Polls n o seconds t result t') : Performs n o t (.poll seconds) result t'

/-- **What holds of the streams** between calls: each partition is open at most once, there is a consumer if any is
    open, and only ends of open streams count as told. -/
structure Consistent (t : Transport ν) : Prop where
  nodup : (t.streams.map (·.1)).Nodup
  held : t.streams ≠ [] → t.hasConsumer = true
  ended : ∀ tp ∈ t.ended, tp ∈ t.streams.map (·.1)

theorem Consistent.of_closed {t : Transport ν} (closed : t.streams = []) (untold : t.ended = []) :
    Consistent t where
  nodup := by rw [closed]; exact List.nodup_nil
  held some := absurd closed some
  ended := by rw [untold]; exact List.forall_mem_nil _

theorem isOpen_iff (t : Transport ν) (tp : TopicPartition) : t.isOpen tp = true ↔ tp ∈ t.streams.map (·.1) := by
  simp [isOpen, List.any_eq_true]

/-- Whoever is there is asked, whatever the answer. -/
theorem askIf_of_held {held : Bool} (h : held = true) (r : Request) (t : Transport ν) :
    (t.askIf held n r).2 = (t.ask n r).2 := by
  unfold askIf
  rw [if_pos h]
  generalize t.ask n r = outcome
  obtain ⟨result, t'⟩ := outcome
  cases result with
  | error f => rfl
  | ok a => rfl

/-- **A close** asks for a pause if the stream is open, and does nothing otherwise. -/
theorem closeStream_closes {t : Transport ν} (consistent : Consistent t) (topic : String) (p : Int) :
    (⟨topic, p⟩ ∈ t.streams.map (·.1) → Closes n ⟨topic, p⟩ t (t.closeStream n topic p).2)
      ∧ (⟨topic, p⟩ ∉ t.streams.map (·.1) → t.closeStream n topic p = (.ok (), t)) := by
  constructor
  · intro hopen
    -- A stream is open, so there is a consumer to ask.
    have hheld : t.hasConsumer = true := by
      refine consistent.held fun hnone => ?_
      rw [hnone] at hopen
      cases hopen
    have hstate : (t.closeStream n topic p).2 = (ask n (.pause ⟨topic, p⟩)
        { t with streams := t.streams.filter (·.1 ≠ ⟨topic, p⟩), ended := t.ended.filter (· ≠ ⟨topic, p⟩) }).2 := by
      unfold closeStream
      dsimp only
      rw [if_pos ((isOpen_iff t _).mpr hopen)]
      exact askIf_of_held hheld _ _
    rw [hstate]
    exact ⟨⟨rfl, rfl⟩, rfl, rfl, rfl⟩
  · intro hclosed
    unfold closeStream
    exact if_neg fun hopen => hclosed ((isOpen_iff t _).mp hopen)

/-- **Every call** does one of these. -/
theorem perform_performs {t : Transport ν} (consistent : Consistent t) (call : StreamCall) :
    Performs n o t call (t.perform n o call).1 (t.perform n o call).2 := by
  cases call with
  | openStream topic p start =>
    show Performs n o t _ (withoutItems (t.openStream n topic p start)).1
      (withoutItems (t.openStream n topic p start)).2
    cases hopen : t.openStream n topic p start with
    | mk result t' =>
    cases result with
    | error f => exact .unopened (openStream_leaves hopen)
    | ok u =>
      obtain ⟨ps, hopens⟩ := openStream_opens consistent.nodup hopen
      exact .opened hopens
  | closeStream topic p =>
    obtain ⟨hcloses, hnothing⟩ := closeStream_closes (n := n) consistent topic p
    show Performs n o t _ (withoutItems (t.closeStream n topic p)).1 (withoutItems (t.closeStream n topic p)).2
    by_cases hopen : ⟨topic, p⟩ ∈ t.streams.map (·.1)
    · exact .closed hopen (hcloses hopen)
    · rw [hnothing hopen]
      exact .unclosed hopen
  | poll seconds => exact .polled (poll_polls n o seconds t)

/-! ## Consistency -/

/-- The streams that are left when one is closed. -/
theorem mem_keys_filter (streams : List (TopicPartition × StartPoint)) (tp q : TopicPartition) :
    q ∈ (streams.filter (·.1 ≠ tp)).map (·.1) ↔ q ∈ streams.map (·.1) ∧ q ≠ tp := by
  rw [List.mem_map, List.mem_map]
  constructor
  · rintro ⟨s, hs, rfl⟩
    obtain ⟨hmem, hne⟩ := List.mem_filter.mp hs
    exact ⟨⟨s, hmem, rfl⟩, by simpa using hne⟩
  · rintro ⟨⟨s, hs, rfl⟩, hne⟩
    exact ⟨s, List.mem_filter.mpr ⟨hs, by simpa using hne⟩, rfl⟩

/-- **Every call** keeps the streams consistent. -/
theorem Consistent.performs {t t' : Transport ν} (h : Consistent t) {call : StreamCall}
    {result : Except Failure (List Item)} (g : Performs n o t call result t') : Consistent t' := by
  cases g with
  | opened opens =>
    refine ⟨opens.nodup, fun _ => opens.held, ?_⟩
    intro tp htp
    rw [opens.ended] at htp
    rw [opens.streams, mem_keys_withStart]
    exact .inr (h.ended tp (List.mem_filter.mp htp).1)
  | unopened leaves =>
    refine ⟨?_, ?_, ?_⟩
    · rw [leaves.streams]; exact h.nodup
    · rw [leaves.streams, leaves.hasConsumer]; exact h.held
    · rw [leaves.streams, leaves.ended]; exact h.ended
  | @closed topic p _ _ isOpen closes =>
    refine ⟨?_, ?_, ?_⟩
    · rw [closes.streams]
      exact h.nodup.sublist (List.filter_sublist.map _)
    · intro some
      rw [closes.hasConsumer]
      refine h.held fun hnone => some ?_
      rw [closes.streams, hnone]
      rfl
    · intro tp htp
      rw [closes.ended] at htp
      obtain ⟨hmem, hne⟩ := List.mem_filter.mp htp
      rw [closes.streams, mem_keys_filter]
      exact ⟨h.ended tp hmem, by simpa using hne⟩
  | unclosed => exact h
  | polled polls =>
    -- A poll tells ends of open streams only.
    obtain ⟨hstreams, hheld, hended, -⟩ := polls.inquires
    refine ⟨?_, ?_, ?_⟩
    · rw [hstreams]; exact h.nodup
    · rw [hstreams, hheld]; exact h.held
    · intro tp htp
      rw [hstreams]
      exact (hended tp htp).elim (h.ended tp) id

/-! ## Runs -/

/-- **What every call preserves** holds after any calls, of the transport and of what came of them. -/
theorem session_induction {P : List Served → Transport ν → Prop} {t₀ : Transport ν} (start : P [] t₀)
    (step : ∀ hs t call, P hs t → P (hs ++ [⟨call, (t.perform n o call).1⟩]) (t.perform n o call).2)
    (calls : List StreamCall) : P (served n o calls t₀) (afterCalls n o calls t₀) := by
  -- Calls are made from the front and recorded at the back, so the induction is over any earlier record.
  suffices h : ∀ hs t, P hs t → P (hs ++ served n o calls t) (afterCalls n o calls t) from h [] t₀ start
  induction calls with
  | nil =>
    intro hs t ht
    show P (hs ++ []) t
    rw [List.append_nil]
    exact ht
  | cons call rest ih =>
    intro hs t ht
    have hrest := ih _ _ (step hs t call ht)
    rw [List.append_assoc] at hrest
    exact hrest

end Transport

end TopicReader
