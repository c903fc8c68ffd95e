import Mathlib.Data.List.Dedup
import TopicReader.Proofs.Transport.Consumer

/-!
# `Proofs.Transport.Broker` — a consumer of growing logs in memory

The laws of a `LogConsumer` can be kept: here is a network that keeps them. Every partition has a log of messages
that are numbered from zero on, and with every fetch each log grows by one message, so that there is always
something left behind an end that was told. A fetch brings a few messages of each partition that it names.

## Contents
- **The broker.** `Broker`, `Broker.message`, `Broker.log`.
- **Answers.** `Broker.answer`, `Broker.network`; `Broker.pair` is a broker to start with.
- **Laws.** `Broker.consumer`: the network is a consumer of growing logs.
-/

namespace TopicReader

/-! ## The broker -/

/-- A broker in memory: the topics that it describes, the number of messages of each partition, and where its
    consumer stands. -/
structure Broker where
  topics : List DescribedTopic
  produced : TopicPartition → Nat
  positions : TopicPartition → Int

namespace Broker

/-- The message of a partition with a number. -/
def message (tp : TopicPartition) (number : Nat) : Record :=
  ⟨tp.topic, tp.partition, number, none, some [UInt8.ofNat number]⟩

/-- The log of a partition. -/
def log (b : Broker) (tp : TopicPartition) : List Record := (List.range (b.produced tp)).map (message tp)

/-- Set the position in a partition. -/
def seekTo (b : Broker) (tp : TopicPartition) (p : Int) : Broker :=
  { b with positions := fun q => if q = tp then p else b.positions q }

/-- Every partition gets one more message. -/
def grown (b : Broker) : Broker := { b with produced := fun tp => b.produced tp + 1 }

/-- Where the consumer stands after a fetch: behind as many messages as a fetch brings, but not behind the end. -/
def next (chunk : Nat) (b : Broker) (tps : List TopicPartition) (tp : TopicPartition) : Int :=
  if tps.contains tp then max (b.positions tp) (min (b.produced tp) (b.positions tp + chunk)) else b.positions tp

/-- What a fetch brings of a partition. -/
def fetched (chunk : Nat) (b : Broker) (tps : List TopicPartition) (tp : TopicPartition) : List Record :=
  (b.log tp).filter (Record.isBetween (b.positions tp) (b.next chunk tps tp))

/-! ## Answers -/

/-- The answer to a request. No request fails. -/
def answer (chunk : Nat) (b : Broker) : (r : Request) → r.Answer × Broker
  | .describe _ => (some b.topics, b)
  | .beginningOffset _ => (0, b)
  | .endOffset tp => (b.produced tp, b)
  | .position tp => (b.positions tp, b)
  | .highWater tp | .lastStable tp => (some (b.produced tp), b)
  | .getMany tps _ =>
    (tps.dedup.map fun tp => (tp, b.grown.fetched chunk tps tp),
      { b.grown with positions := b.grown.next chunk tps })
  | .assign _ => ((), { b with positions := fun _ => 0 })
  | .seekToBeginning tp | .seekToCommitted tp => ((), b.seekTo tp 0)
  | .seekToEnd tp => ((), b.seekTo tp (b.produced tp))
  | .seek tp p => ((), b.seekTo tp p)
  | .makeConsumer _ | .makeAdmin _ | .startConsumer | .startAdmin | .stopConsumer | .closeAdmin
  | .pause _ => ((), b)

/-- The broker as a network. A fetch brings up to `chunk` messages of a partition. -/
def network (chunk : Nat) : Network Broker where
  answer r b := (.ok (b.answer chunk r).1, (b.answer chunk r).2)

/-- A topic of two partitions. The second one is one message ahead. -/
def pair : Broker where
  topics := [⟨some "events", none, none, [⟨some 1, none, none⟩, ⟨some 0, none, none⟩]⟩]
  produced tp := tp.partition.toNat + 1
  positions _ := 0

/-! ## Laws -/

theorem log_increasing (b : Broker) (tp : TopicPartition) :
    (b.log tp).Pairwise fun x y => x.offset < y.offset := by
  refine List.pairwise_map.mpr (List.pairwise_lt_range.imp fun hlt => ?_)
  exact Int.ofNat_lt.mpr hlt

theorem log_own (b : Broker) (tp : TopicPartition) : ∀ r ∈ b.log tp, r.place = tp := by
  intro r hr
  obtain ⟨number, -, rfl⟩ := List.mem_map.mp hr
  rfl

theorem log_grown (b : Broker) (tp : TopicPartition) : b.log tp <+: b.grown.log tp := by
  refine ⟨[message tp (b.produced tp)], ?_⟩
  show _ = (List.range (b.produced tp + 1)).map (message tp)
  rw [List.range_succ, List.map_append]; rfl

theorem positions_seekTo_of_ne {b : Broker} {tp q : TopicPartition} {p : Int} (h : decide (tp = q) = false) :
    (b.seekTo tp p).positions q = b.positions q := if_neg fun heq => of_decide_eq_false h heq.symm

/-- A fetch does not go back. -/
theorem positions_le_next (chunk : Nat) (b : Broker) (tps : List TopicPartition) (tp : TopicPartition) :
    b.positions tp ≤ b.next chunk tps tp := by
  unfold next
  split
  · exact Int.le_max_left _ _
  · exact Int.le_refl _

/-- A fetch does not go behind the end. -/
theorem next_le_produced (chunk : Nat) (b : Broker) (tps : List TopicPartition) (tp : TopicPartition) :
    b.next chunk tps tp = b.positions tp ∨ b.next chunk tps tp ≤ b.produced tp := by
  unfold next
  split
  · omega
  · exact .inl rfl

/-- Of a partition that is asked for more than once, the records come once. -/
theorem fetched_once (chunk : Nat) (b : Broker) (tps : List TopicPartition) (tp : TopicPartition) :
    ((tps.dedup.map fun q => (q, b.fetched chunk tps q)).filter (·.1 = tp)).flatMap (·.2)
      = b.fetched chunk tps tp := by
  rw [List.filter_map, List.flatMap_map]
  have hfilter : tps.dedup.filter (fun q => decide (q = tp)) = if tp ∈ tps then [tp] else [] := by
    by_cases htp : tp ∈ tps
    · rw [if_pos htp, List.filter_eq,
        List.count_eq_one_of_mem (List.nodup_dedup tps) (List.mem_dedup.mpr htp)]
      rfl
    · rw [if_neg htp]
      refine List.filter_eq_nil_iff.mpr fun q hq heq => htp ?_
      rw [← of_decide_eq_true heq]; exact List.mem_dedup.mp hq
  show (tps.dedup.filter fun q => decide (q = tp)).flatMap (b.fetched chunk tps) = _
  rw [hfilter]
  by_cases htp : tp ∈ tps
  · rw [if_pos htp]; simp
  · -- Where nothing is asked for, the position stays.
    have hstays : b.next chunk tps tp = b.positions tp := if_neg (by simpa using htp)
    rw [if_neg htp, fetched, hstays, filter_between_self]; rfl

/-- **The broker is a consumer of growing logs.** -/
def consumer (chunk : Nat) : LogConsumer (network chunk) where
  log := log
  position := positions
  increasing := log_increasing
  own := log_own
  grows := by
    intro r b tp
    cases r with
    | getMany tps ms => exact log_grown b tp
    | _ => exact List.prefix_refl _
  keeps := by
    intro r b tp hstays
    cases r with
    | beginningOffset | endOffset | position | highWater | lastStable => rfl
    | seekToBeginning q | seekToEnd q | seekToCommitted q | seek q p => exact positions_seekTo_of_ne hstays
    | getMany tps ms => exact if_neg (by rw [show tps.contains tp = false from hstays]; decide)
    | _ => cases hstays
  seeks := fun _ _ _ _ => if_pos rfl
  tells := fun _ _ _ h => (Except.ok.inj h).symm
  forward := fun b tps _ tp => positions_le_next chunk b.grown tps tp
  fetches := by
    intro b tps ms data h tp
    cases h
    exact fetched_once chunk b.grown tps tp
  stays := by
    intro b tps ms data h tp
    rcases next_le_produced chunk b.grown tps tp with hsame | hle
    · exact .inl hsame
    · refine .inr ⟨message tp (b.produced tp), ?_, hle⟩
      exact List.mem_map_of_mem (List.mem_range.mpr (Nat.lt_succ_self _))

end Broker

end TopicReader
