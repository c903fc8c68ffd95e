import TopicReader.Proofs.Transport.Broker
import TopicReader.Proofs.Transport.Session

/-!
# `Proofs.Transport.Assignment` — every open stream stands where its last open has put it

An assignment drops every position, and each open makes a new one. So an open has to place all streams again, each by
its own directive; it may fail in the midst of that, and streams may be closed and opened again in any order. Here the
streams of a transport are told by the calls alone: `startOf` says of each partition where the last open that succeeded
wants it, unless it was closed since. Whatever calls were made, the transport holds just these streams, and an open
that succeeds assigns them all and places each of them once.

## Contents
- **The reference.** `startOf`.
- **The streams.** `Follows`: the transport holds the streams that the calls tell; `Follows.performs`.
- **The assignment.** `Assigned`: what an open that succeeds has asked for, with `SeeksTail` for a place that counts
  back from the end; `Opens.assigned`.
- **All calls.** `session_assigns`.
-/

namespace TopicReader

variable {ν : Type}

/-! ## The reference -/

/-- Where a stream is to start after a call: an open that succeeds says where, and a close takes the stream away,
    whatever comes of it. -/
def startAfter (tp : TopicPartition) (start : Option StartPoint) : Served → Option StartPoint
  | ⟨.openStream topic p point, .ok _⟩ => if ⟨topic, p⟩ = tp then some point else start
  | ⟨.closeStream topic p, _⟩ => if ⟨topic, p⟩ = tp then none else start
  | _ => start

/-- **Where a stream is to start**: as its last open that succeeded says, unless it was closed since. -/
def startOf (hs : List Served) (tp : TopicPartition) : Option StartPoint := hs.foldl (startAfter tp) none

theorem startOf_snoc (hs : List Served) (h : Served) (tp : TopicPartition) :
    startOf (hs ++ [h]) tp = startAfter tp (startOf hs tp) h := by
  rw [startOf, List.foldl_append]
  rfl

namespace Transport

variable {n : Network ν} {o : TransportOptions}

/-! ## The streams -/

/-- **The streams of a transport are those that the calls tell.** -/
structure Follows (hs : List Served) (t : Transport ν) : Prop where
  consistent : Consistent t
  starts : ∀ tp start, (tp, start) ∈ t.streams ↔ startOf hs tp = some start

/-- The open streams. -/
theorem Follows.isOpen {hs : List Served} {t : Transport ν} (h : Follows hs t) (tp : TopicPartition) :
    tp ∈ t.streams.map (·.1) ↔ (startOf hs tp).isSome = true := by
  rw [List.mem_map, Option.isSome_iff_exists]
  constructor
  · rintro ⟨⟨q, start⟩, hmem, rfl⟩
    exact ⟨start, (h.starts q start).mp hmem⟩
  · rintro ⟨start, hstart⟩
    exact ⟨(tp, start), (h.starts tp start).mpr hstart, rfl⟩

/-- **Every call** leaves the streams that the calls tell. -/
theorem Follows.performs {hs : List Served} {t t' : Transport ν} (h : Follows hs t) {call : StreamCall}
    {result : Except Failure (List Item)} (g : Performs n o t call result t') :
    Follows (hs ++ [⟨call, result⟩]) t' := by
  refine ⟨h.consistent.performs g, ?_⟩
  intro tp start
  rw [startOf_snoc]
  cases g with
  | @opened topic p point _ _ opens =>
    rw [opens.streams, mem_withStart_iff h.consistent.nodup, h.starts]
    show _ ↔ (if (⟨topic, p⟩ : TopicPartition) = tp then some point else startOf hs tp) = some start
    by_cases heq : (⟨topic, p⟩ : TopicPartition) = tp
    · rw [if_pos heq.symm, if_pos heq, Option.some.injEq]
      exact eq_comm
    · rw [if_neg (Ne.symm heq), if_neg heq]
  | unopened leaves =>
    rw [leaves.streams]
    exact h.starts tp start
  | @closed topic p _ _ isOpen closes =>
    rw [closes.streams, List.mem_filter, h.starts]
    show _ ↔ (if (⟨topic, p⟩ : TopicPartition) = tp then none else startOf hs tp) = some start
    by_cases heq : (⟨topic, p⟩ : TopicPartition) = tp
    · simp [heq]
    · simp [heq, Ne.symm heq]
  | @unclosed topic p isClosed =>
    rw [h.starts]
    show _ ↔ (if (⟨topic, p⟩ : TopicPartition) = tp then none else startOf hs tp) = some start
    by_cases heq : (⟨topic, p⟩ : TopicPartition) = tp
    · -- A stream that is not open is told by no call.
      rw [if_pos heq]
      rw [heq, h.isOpen, Bool.not_eq_true, Option.isSome_eq_false_iff, Option.isNone_iff_eq_none] at isClosed
      rw [isClosed]
    · rw [if_neg heq]
  | polled polls =>
    rw [polls.inquires.1]
    exact h.starts tp start

/-! ## The assignment -/

/-- **A number of records before the end** is a place that is asked for with both ends of the partition. It is not
    before the beginning, not behind the end, and not more records before the end than that number. -/
def SeeksTail (n : Network ν) (tp : TopicPartition) (count : Nat) (rs : List Request) (s : ν) : Prop :=
  ∃ (mid : List Request) (first last : Int) (rest : List Request),
    rs = mid ++ [.beginningOffset tp, .endOffset tp, .seek tp (max first (last - count))] ++ rest
      ∧ (n.answer (.beginningOffset tp) (n.after mid s)).1 = .ok first
      ∧ (n.answer (.endOffset tp) (n.after (mid ++ [.beginningOffset tp]) s)).1 = .ok last
      ∧ (first ≤ last → first ≤ max first (last - count) ∧ max first (last - count) ≤ last
          ∧ last - max first (last - count) ≤ count)

/-- **All streams were assigned and placed**, where some starts are wanted: the last assignment names the partitions
    that are to start anywhere, each once, and each of them was placed once since then, where its start says. -/
structure Assigned (n : Network ν) (starts : TopicPartition → Option StartPoint) (tps : List TopicPartition)
    (ps : List Request) (t t' : Transport ν) : Prop where
  asked : Asked n (.assign tps :: ps) t t'
  last : ∀ r ∈ ps, r.assigns = false
  nodup : tps.Nodup
  named : ∀ tp, tp ∈ tps ↔ (starts tp).isSome = true
  placed : ∀ tp start, starts tp = some start → SeeksAmong n tp start ps (n.answer (.assign tps) t.network).2
  once : ∀ tp ∈ tps, ps.countP (·.moves tp) = 1
  tail : ∀ tp count, starts tp = some (.offset (.tail count)) →
    SeeksTail n tp count ps (n.answer (.assign tps) t.network).2

/-- A stream that is placed once is moved once. -/
theorem SeeksAmong.once {tp : TopicPartition} {start : StartPoint} {rs : List Request} {s : ν}
    (h : SeeksAmong n tp start rs s) : rs.countP (·.moves tp) = 1 := by
  obtain ⟨mid, own, rest, rfl, hseeks, hothers⟩ := h
  have hnone : ∀ qs : List Request, (∀ r ∈ qs, r.moves tp = false) → qs.countP (·.moves tp) = 0 := by
    intro qs hqs
    refine List.countP_eq_zero.mpr fun r hr => ?_
    rw [hqs r hr]
    exact Bool.false_ne_true
  rw [List.countP_append, List.countP_append, hseeks.once,
    hnone mid fun r hr => hothers r (List.mem_append_left _ hr),
    hnone rest fun r hr => hothers r (List.mem_append_right _ hr)]

/-- A stream that starts a number of records before the end is placed there. -/
theorem SeeksAmong.tail {tp : TopicPartition} {count : Nat} {rs : List Request} {s : ν}
    (h : SeeksAmong n tp (.offset (.tail count)) rs s) : SeeksTail n tp count rs s := by
  obtain ⟨mid, own, rest, rfl, hseeks, -⟩ := h
  cases hseeks with
  | @tail _ _ first last begins ends placed =>
    refine ⟨mid, first, last, rest, rfl, begins, ?_, ?_⟩
    · rw [Network.after_append]
      exact ends
    · intro hle
      omega

/-- **An open that succeeds** assigns and places all streams, each where the calls want it. -/
theorem Opens.assigned {hs : List Served} {tp : TopicPartition} {start : StartPoint} {ps : List Request}
    {t t' : Transport ν} (h : Opens n tp start ps t t') (follows : Follows hs t') :
    Assigned n (startOf hs) (t'.streams.map (·.1)) ps t t' := by
  have hplaced : ∀ q point, startOf hs q = some point →
      SeeksAmong n q point ps (n.answer (.assign (t'.streams.map (·.1))) t.network).2 :=
    fun q point hq => h.placed q point ((follows.starts q point).mpr hq)
  refine ⟨h.asked, fun r hr => (h.others r hr).1, h.nodup, follows.isOpen, hplaced, ?_, ?_⟩
  · intro q hq
    obtain ⟨point, hpoint⟩ := Option.isSome_iff_exists.mp ((follows.isOpen q).mp hq)
    exact (hplaced q point hpoint).once
  · intro q count hcount
    exact (hplaced q _ hcount).tail

/-! ## All calls -/

/-- After any calls the streams are those that the calls tell. -/
theorem session_follows (n : Network ν) (o : TransportOptions) {t₀ : Transport ν} (closed : t₀.streams = [])
    (untold : t₀.ended = []) (calls : List StreamCall) :
    Follows (served n o calls t₀) (afterCalls n o calls t₀) := by
  have hstart : Follows [] t₀ := by
    refine ⟨.of_closed closed untold, ?_⟩
    intro tp start
    rw [closed]
    exact ⟨fun h => absurd h List.not_mem_nil, fun h => by cases h⟩
  refine session_induction hstart ?_ calls
  intro hs t call h
  exact h.performs (perform_performs h.consistent call)

/-- **The streams stay assigned.** After any calls that open, close and read streams, whatever came of them, the open
    streams are those that the calls tell. Then an open that succeeds leaves all streams assigned and placed, each
    once and by its own start; an open that fails leaves the streams, their starts and the ends that were told as they
    were; a close takes out its own stream and asks for one pause if it was open, and does nothing otherwise; and a
    poll fetches from the open streams, each named once, and from no other. -/
theorem session_assigns (n : Network ν) (o : TransportOptions) (t₀ : Transport ν) (closed : t₀.streams = [])
    (untold : t₀.ended = []) (calls : List StreamCall) :
    let hs := served n o calls t₀
    let t := afterCalls n o calls t₀
    (∀ tp start, (tp, start) ∈ t.streams ↔ startOf hs tp = some start)
      ∧ (∀ topic p start t', t.openStream n topic p start = (.ok (), t') →
          ∃ tps ps, Assigned n (startOf (hs ++ [⟨.openStream topic p start, .ok []⟩])) tps ps t t')
      ∧ (∀ topic p start f t', t.openStream n topic p start = (.error f, t') →
          t'.streams = t.streams ∧ t'.ended = t.ended)
      ∧ (∀ topic p, (startOf hs ⟨topic, p⟩).isSome = true → Closes n ⟨topic, p⟩ t (t.closeStream n topic p).2)
      ∧ (∀ topic p, startOf hs ⟨topic, p⟩ = none → t.closeStream n topic p = (.ok (), t))
      ∧ (∀ seconds ms, milliseconds seconds = .ok ms → t.streams ≠ [] →
          ∃ tps qs, Asked n (.getMany tps ms :: qs) t (t.poll n o seconds).2 ∧ (∀ r ∈ qs, r.fetches = false)
            ∧ tps.Nodup ∧ ∀ tp, tp ∈ tps ↔ (startOf hs tp).isSome = true) := by
  intro hs t
  have hfollows : Follows hs t := session_follows n o closed untold calls
  refine ⟨hfollows.starts, ?_, ?_, ?_, ?_, ?_⟩
  · intro topic p start t' ok
    obtain ⟨ps, hopens⟩ := openStream_opens hfollows.consistent.nodup ok
    exact ⟨_, ps, hopens.assigned (hfollows.performs (o := o) (.opened hopens))⟩
  · intro topic p start f t' failed
    have hleaves := openStream_leaves failed
    exact ⟨hleaves.streams, hleaves.ended⟩
  · intro topic p hopen
    exact (closeStream_closes hfollows.consistent topic p).1 ((hfollows.isOpen _).mpr hopen)
  · intro topic p hclosed
    refine (closeStream_closes hfollows.consistent topic p).2 fun hopen => ?_
    rw [hfollows.isOpen, hclosed] at hopen
    cases hopen
  · intro seconds ms wait some
    -- There are streams, there is a consumer, and the wait is a number: so the poll does fetch.
    obtain ⟨-, -, -, hasked⟩ := (poll_polls n o seconds t).inquires
    rcases hasked with ⟨-, hnone | hunheld | ⟨f, hwait⟩⟩ | ⟨ms', qs, hwait, hasked, hquestions⟩
    · exact absurd hnone some
    · rw [hfollows.consistent.held some] at hunheld
      cases hunheld
    · rw [wait] at hwait
      cases hwait
    · rw [wait] at hwait
      cases hwait
      exact ⟨_, qs, hasked, fun r hr => (hquestions r hr).2.1, hfollows.consistent.nodup, hfollows.isOpen⟩

/-- An open that names no offset fails when it is to place the second stream, and the close of a stream that is not
    open does nothing: the next open assigns and places both streams. -/
theorem session_assigns_of_broker :
    let o : TransportOptions := ⟨.usual, [], fun _ => .ok ()⟩
    let t₀ : Transport Broker := { Transport.idle Broker.pair with hasConsumer := true }
    let calls : List StreamCall := [.openStream "events" 1 (.offset .earliest),
      .openStream "events" 0 (.alien .null), .closeStream "events" 0]
    let t := afterCalls (Broker.network 2) o calls t₀
    let opening : StreamCall := .openStream "events" 0 (.offset (.tail 1))
    t₀.streams = [] ∧ t₀.ended = [] ∧ t.streams = [(⟨"events", 1⟩, .offset .earliest)]
      ∧ ∃ t' tps ps, t.openStream (Broker.network 2) "events" 0 (.offset (.tail 1)) = (.ok (), t')
        ∧ Assigned (Broker.network 2) (startOf (served (Broker.network 2) o calls t₀ ++ [⟨opening, .ok []⟩])) tps ps
          t t' := by
  intro o t₀ calls t opening
  obtain ⟨-, hassigned, -⟩ := session_assigns (Broker.network 2) o t₀ rfl rfl calls
  have hopens : t.openStream (Broker.network 2) "events" 0 (.offset (.tail 1))
      = (.ok (), (t.openStream (Broker.network 2) "events" 0 (.offset (.tail 1))).2) := rfl
  obtain ⟨tps, ps, hall⟩ := hassigned "events" 0 (.offset (.tail 1)) _ hopens
  exact ⟨rfl, rfl, rfl, _, tps, ps, hopens, hall⟩

end Transport

end TopicReader
