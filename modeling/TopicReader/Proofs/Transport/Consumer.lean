import Mathlib.Data.List.Infix
import TopicReader.Transport.Basic

/-!
# `Proofs.Transport.Consumer` — a consumer of growing logs

The cluster is on the other side of a network that the transport does not look into. `LogConsumer` says what is
relied on where a run is to read partitions without a gap: each partition is a log of records that grows at its
end, and the consumer has a position in it. Nothing is said of how much a fetch brings, of when a log grows, of
what is known of its end, or of requests that fail.

## Contents
- **Requests.** `Network.after`, `Request.reads`, `Request.fetches`, `Request.moves`.
- **The consumer.** `LogConsumer`, with its laws.
- **Growth.** `filter_between_of_growth`: what lies before a position that was reached is not changed by growth;
  `filter_between_append`; `log_after` and `position_le_after`: along many requests.
- **Placing.** `Seeks`: the requests that a start leads to; `Places`: those of a directive, and the position that
  they set.
- **Ends.** `Told`: the end of a partition was asked for, and the position was not before it.
-/

namespace TopicReader

variable {ν : Type}

/-! ## Requests -/

/-- The network after some requests. -/
def Network.after (n : Network ν) (rs : List Request) (s : ν) : ν := rs.foldl (fun s r => (n.answer r s).2) s

theorem Network.after_append (n : Network ν) (rs qs : List Request) (s : ν) :
    n.after (rs ++ qs) s = n.after qs (n.after rs s) := List.foldl_append

namespace Request

/-- Does a request read the streams that are open, or ask where they stand? -/
def reads : Request → Bool
  | getMany .. | position _ | highWater _ | lastStable _ => true
  | _ => false

/-- Does a request fetch records? -/
def fetches : Request → Bool
  | getMany .. => true
  | _ => false

/-- Does a request drop all positions? -/
def assigns : Request → Bool
  | assign _ => true
  | _ => false

/-- May a request move the position in a partition? Questions do not, a seek moves the position in its own
    partition, and a fetch moves those in the partitions that it names. Of all others nothing is known. -/
def moves (tp : TopicPartition) : Request → Bool
  | beginningOffset _ | endOffset _ | position _ | highWater _ | lastStable _ => false
  | seekToBeginning q | seekToEnd q | seekToCommitted q | seek q _ => q = tp
  | getMany tps _ => tps.contains tp
  | _ => true

end Request

/-- The partition that a record is of. -/
def Record.place (r : Record) : TopicPartition := ⟨r.topic, r.partition⟩

/-- Does a record lie from one offset on and before another one? -/
def Record.isBetween (first last : Int) (r : Record) : Bool := first ≤ r.offset && r.offset < last

theorem Record.isBetween_iff {first last : Int} {r : Record} :
    r.isBetween first last = true ↔ first ≤ r.offset ∧ r.offset < last := by
  rw [isBetween, Bool.and_eq_true, decide_eq_true_eq, decide_eq_true_eq]

/-! ## The consumer -/

/-- **A consumer of growing logs** behind a network: a log and a position for each partition. Offsets increase
    along a log, whatever is asked a log only grows, and a position moves only with what may move it. A seek sets
    it, and it is told as it is. A fetch brings what lies between the position before and the one after it, and
    goes no farther than just behind a record. -/
structure LogConsumer (n : Network ν) where
  log : ν → TopicPartition → List Record
  position : ν → TopicPartition → Int
  increasing : ∀ s tp, (log s tp).Pairwise fun a b => a.offset < b.offset
  own : ∀ s tp, ∀ r ∈ log s tp, r.place = tp
  grows : ∀ r s tp, log s tp <+: log (n.answer r s).2 tp
  keeps : ∀ (r : Request) s tp, r.moves tp = false → position (n.answer r s).2 tp = position s tp
  seeks : ∀ s tp o, (n.answer (.seek tp o) s).1 = .ok () → position (n.answer (.seek tp o) s).2 tp = o
  tells : ∀ s tp p, (n.answer (.position tp) s).1 = .ok p → p = position s tp
  forward : ∀ s tps ms tp, position s tp ≤ position (n.answer (.getMany tps ms) s).2 tp
  fetches : ∀ s tps ms data, (n.answer (.getMany tps ms) s).1 = .ok data → ∀ tp,
    (data.filter (·.1 = tp)).flatMap (·.2) = (log (n.answer (.getMany tps ms) s).2 tp).filter
      (Record.isBetween (position s tp) (position (n.answer (.getMany tps ms) s).2 tp))
  stays : ∀ s tps ms data, (n.answer (.getMany tps ms) s).1 = .ok data → ∀ tp,
    position (n.answer (.getMany tps ms) s).2 tp = position s tp
      ∨ ∃ r ∈ log (n.answer (.getMany tps ms) s).2 tp,
        position (n.answer (.getMany tps ms) s).2 tp ≤ r.offset + 1

/-! ## Growth -/

/-- What lies between two positions is not changed by growth at the end, where the second one is the first one
    itself or at most just behind a record. -/
theorem filter_between_of_growth {short long : List Record} {first last : Int} (growth : short <+: long)
    (increasing : long.Pairwise fun a b => a.offset < b.offset)
    (reached : last = first ∨ ∃ r ∈ short, last ≤ r.offset + 1) :
    long.filter (Record.isBetween first last) = short.filter (Record.isBetween first last) := by
  obtain ⟨rest, rfl⟩ := growth
  rw [List.filter_append]
  have hnone : rest.filter (Record.isBetween first last) = [] := by
    refine List.filter_eq_nil_iff.mpr fun x hx hbetween => ?_
    rw [Record.isBetween_iff] at hbetween
    rcases reached with rfl | ⟨r, hr, hlast⟩
    · omega
    · have hlt := (List.pairwise_append.mp increasing).2.2 r hr x hx
      omega
  rw [hnone, List.append_nil]

/-- What lies between three positions, one after the other. -/
theorem filter_between_append {log : List Record} (increasing : log.Pairwise fun a b => a.offset < b.offset)
    {first middle last : Int} (hfirst : first ≤ middle) (hlast : middle ≤ last) :
    log.filter (Record.isBetween first middle) ++ log.filter (Record.isBetween middle last)
      = log.filter (Record.isBetween first last) := by
  induction log with
  | nil => rfl
  | cons x rest ih =>
    obtain ⟨hx, hrest⟩ := List.pairwise_cons.mp increasing
    by_cases hmiddle : x.offset < middle
    · have hsecond : Record.isBetween middle last x = false := by
        simp only [Record.isBetween, Bool.and_eq_false_iff, decide_eq_false_iff_not]; omega
      have hsame : Record.isBetween first last x = Record.isBetween first middle x := by
        rw [Bool.eq_iff_iff, Record.isBetween_iff, Record.isBetween_iff]; omega
      rw [List.filter_cons, List.filter_cons, List.filter_cons, hsecond, hsame, ← ih hrest]
      by_cases hin : Record.isBetween first middle x = true
      · simp only [hin, if_true, Bool.false_eq_true, if_false, List.cons_append]
      · simp only [hin, Bool.false_eq_true, if_false]
    · -- From `x` on everything lies behind the middle.
      have hbehind : ∀ y ∈ x :: rest, middle ≤ y.offset := by
        refine List.forall_mem_cons.mpr ⟨by omega, fun y hy => ?_⟩
        have hlt := hx y hy
        omega
      have hnone : (x :: rest).filter (Record.isBetween first middle) = [] := by
        refine List.filter_eq_nil_iff.mpr fun y hy hbetween => ?_
        rw [Record.isBetween_iff] at hbetween
        have hle := hbehind y hy
        omega
      rw [hnone, List.nil_append]
      refine List.filter_congr fun y hy => ?_
      have hle := hbehind y hy
      rw [Bool.eq_iff_iff, Record.isBetween_iff, Record.isBetween_iff]
      omega

/-- Nothing lies between a position and itself. -/
theorem filter_between_self (log : List Record) (p : Int) : log.filter (Record.isBetween p p) = [] := by
  refine List.filter_eq_nil_iff.mpr fun y _ hbetween => ?_
  rw [Record.isBetween_iff] at hbetween
  omega

namespace LogConsumer

variable {n : Network ν} (C : LogConsumer n)

theorem log_after (rs : List Request) (s : ν) (tp : TopicPartition) :
    C.log s tp <+: C.log (n.after rs s) tp := by
  induction rs generalizing s with
  | nil => exact List.prefix_refl _
  | cons r rest ih => exact (C.grows r s tp).trans (ih (n.answer r s).2)

/-- What cannot move a position leaves it where it is. -/
theorem position_after {rs : List Request} {tp : TopicPartition} (h : ∀ r ∈ rs, r.moves tp = false) (s : ν) :
    C.position (n.after rs s) tp = C.position s tp := by
  induction rs generalizing s with
  | nil => rfl
  | cons r rest ih =>
    have hrest := ih (fun x hx => h x (List.mem_cons_of_mem _ hx)) (n.answer r s).2
    exact hrest.trans (C.keeps r s tp (h r List.mem_cons_self))

/-- Reading never goes back. -/
theorem position_le_after {rs : List Request} (h : ∀ r ∈ rs, r.reads = true) (s : ν) (tp : TopicPartition) :
    C.position s tp ≤ C.position (n.after rs s) tp := by
  induction rs generalizing s with
  | nil => exact Int.le_refl _
  | cons r rest ih =>
    have hrest := ih (fun x hx => h x (List.mem_cons_of_mem _ hx)) (n.answer r s).2
    refine Int.le_trans ?_ hrest
    have hr := h r List.mem_cons_self
    cases r with
    | getMany tps ms => exact C.forward s tps ms tp
    | position q => exact Int.le_of_eq (C.keeps _ s tp rfl).symm
    | highWater q => exact Int.le_of_eq (C.keeps _ s tp rfl).symm
    | lastStable q => exact Int.le_of_eq (C.keeps _ s tp rfl).symm
    | _ => cases hr

end LogConsumer

/-! ## Placing -/

/-- **A stream is placed** by the requests that its start leads to, each of them answered: one seek, and before it,
    where the start counts back from the end, the questions where the partition begins and where it ends. -/
inductive Seeks (n : Network ν) (tp : TopicPartition) : StartPoint → List Request → ν → Prop where
  | earliest {s : ν} (placed : (n.answer (.seekToBeginning tp) s).1 = .ok ()) :
    Seeks n tp (.offset .earliest) [.seekToBeginning tp] s
  | latest {s : ν} (placed : (n.answer (.seekToEnd tp) s).1 = .ok ()) :
    Seeks n tp (.offset .latest) [.seekToEnd tp] s
  | stored {s : ν} (placed : (n.answer (.seekToCommitted tp) s).1 = .ok ()) :
    Seeks n tp (.offset .stored) [.seekToCommitted tp] s
  | absolute {s : ν} {k : Nat} (placed : (n.answer (.seek tp k) s).1 = .ok ()) :
    Seeks n tp (.offset (.absolute k)) [.seek tp k] s
  | tail {s : ν} {count : Nat} {first last : Int} (begins : (n.answer (.beginningOffset tp) s).1 = .ok first)
    (ends : (n.answer (.endOffset tp) (n.after [.beginningOffset tp] s)).1 = .ok last)
    (placed : (n.answer (.seek tp (max first (last - count)))
      (n.after [.beginningOffset tp, .endOffset tp] s)).1 = .ok ()) :
    Seeks n tp (.offset (.tail count))
      [.beginningOffset tp, .endOffset tp, .seek tp (max first (last - count))] s

namespace Seeks

variable {n : Network ν} {tp : TopicPartition} {start : StartPoint} {rs : List Request} {s : ν}

/-- Placing a stream is no assignment, reads nothing, and moves no other position. -/
theorem requests (h : Seeks n tp start rs s) :
    ∀ r ∈ rs, r.assigns = false ∧ r.reads = false ∧ ∀ q, q ≠ tp → r.moves q = false := by
  have hseek : ∀ q, q ≠ tp → decide (tp = q) = false := fun q hq => decide_eq_false hq.symm
  cases h with
  | earliest | latest | stored | absolute =>
    intro r hr
    rw [List.mem_singleton.mp hr]
    exact ⟨rfl, rfl, hseek⟩
  | tail =>
    intro r hr
    simp only [List.mem_cons, List.not_mem_nil, or_false] at hr
    rcases hr with rfl | rfl | rfl
    · exact ⟨rfl, rfl, fun _ _ => rfl⟩
    · exact ⟨rfl, rfl, fun _ _ => rfl⟩
    · exact ⟨rfl, rfl, hseek⟩

/-- Its position is moved once. -/
theorem once (h : Seeks n tp start rs s) : rs.countP (·.moves tp) = 1 := by
  cases h with
  | earliest | latest | stored | absolute => simp [Request.moves]
  | tail => simp [Request.moves]

end Seeks

/-- **A stream is placed** by the requests that its directive leads to. The last index is the position that they
    set: where the directive names one, that one; a number of records before the end, but not before the
    beginning; or wherever the consumer goes. -/
inductive Places {n : Network ν} (C : LogConsumer n) (tp : TopicPartition) :
    Offset → List Request → ν → Int → Prop where
  | earliest {s : ν} : (n.answer (.seekToBeginning tp) s).1 = .ok () →
      Places C tp .earliest [.seekToBeginning tp] s (C.position (n.answer (.seekToBeginning tp) s).2 tp)
  | latest {s : ν} : (n.answer (.seekToEnd tp) s).1 = .ok () →
      Places C tp .latest [.seekToEnd tp] s (C.position (n.answer (.seekToEnd tp) s).2 tp)
  | stored {s : ν} : (n.answer (.seekToCommitted tp) s).1 = .ok () →
      Places C tp .stored [.seekToCommitted tp] s (C.position (n.answer (.seekToCommitted tp) s).2 tp)
  | absolute {s : ν} {k : Nat} : (n.answer (.seek tp k) s).1 = .ok () →
      Places C tp (.absolute k) [.seek tp k] s k
  | tail {s : ν} {count : Nat} {first last : Int} : (n.answer (.beginningOffset tp) s).1 = .ok first →
      (n.answer (.endOffset tp) (n.after [.beginningOffset tp] s)).1 = .ok last →
      (n.answer (.seek tp (max first (last - count))) (n.after [.beginningOffset tp, .endOffset tp] s)).1
        = .ok () →
      Places C tp (.tail count) [.beginningOffset tp, .endOffset tp, .seek tp (max first (last - count))] s
        (max first (last - count))

namespace Places

variable {n : Network ν} {C : LogConsumer n} {tp : TopicPartition} {o : Offset} {rs : List Request} {s : ν}
  {p : Int}

/-- The position is where the directive says. -/
theorem position (h : Places C tp o rs s p) : C.position (n.after rs s) tp = p := by
  cases h with
  | earliest => rfl
  | latest => rfl
  | stored => rfl
  | absolute hok => exact C.seeks _ tp _ hok
  | tail _ _ hok => exact C.seeks _ tp _ hok

end Places

/-- With a consumer behind the network, what places a stream sets its position. -/
theorem Seeks.places {n : Network ν} (C : LogConsumer n) {tp : TopicPartition} {o : Offset} {rs : List Request}
    {s : ν} (h : Seeks n tp (.offset o) rs s) : ∃ p, Places C tp o rs s p := by
  cases h with
  | earliest hok => exact ⟨_, .earliest hok⟩
  | latest hok => exact ⟨_, .latest hok⟩
  | stored hok => exact ⟨_, .stored hok⟩
  | absolute hok => exact ⟨_, .absolute hok⟩
  | tail hfirst hlast hok => exact ⟨_, .tail hfirst hlast hok⟩

/-! ## Ends -/

/-- The question for the end of what can be read of a partition. -/
def endRequest (o : TransportOptions) (tp : TopicPartition) : Request :=
  if Transport.committedOnly o then .lastStable tp else .highWater tp

/-- The answer to that question. -/
def endAnswer (n : Network ν) (o : TransportOptions) (tp : TopicPartition) (s : ν) :
    Except Failure (Option Int) :=
  if Transport.committedOnly o then (n.answer (.lastStable tp) s).1 else (n.answer (.highWater tp) s).1

/-- **The end of a partition was told**, with some requests: the end was asked for, the answer was `e`, and the
    position that was asked for next was not before it. -/
def Told (n : Network ν) (o : TransportOptions) (tp : TopicPartition) (rs : List Request) (s : ν)
    (e : Int) : Prop :=
  ∃ before rest p, rs = before ++ endRequest o tp :: .position tp :: rest
    ∧ endAnswer n o tp (n.after before s) = .ok (some e)
    ∧ (n.answer (.position tp) (n.after (before ++ [endRequest o tp]) s)).1 = .ok p ∧ e ≤ p

namespace Told

variable {n : Network ν} {o : TransportOptions} {tp : TopicPartition} {rs qs : List Request} {s : ν} {e : Int}

/-- What was told stays told. -/
theorem append (h : Told n o tp rs s e) (qs : List Request) : Told n o tp (rs ++ qs) s e := by
  obtain ⟨before, rest, p, rfl, hend, hposition, hle⟩ := h
  exact ⟨before, rest ++ qs, p, by simp, hend, hposition, hle⟩

theorem prepend (h : Told n o tp qs (n.after rs s) e) : Told n o tp (rs ++ qs) s e := by
  obtain ⟨before, rest, p, rfl, hend, hposition, hle⟩ := h
  refine ⟨rs ++ before, rest, p, by simp, ?_, ?_, hle⟩
  · rw [Network.after_append]; exact hend
  · rw [List.append_assoc, Network.after_append]; exact hposition

/-- **Reading has gone past every end that was told.** -/
theorem le_position (C : LogConsumer n) (h : Told n o tp rs s e) (reads : ∀ r ∈ rs, r.reads = true) :
    e ≤ C.position (n.after rs s) tp := by
  obtain ⟨before, rest, p, rfl, -, hposition, hle⟩ := h
  rw [C.tells _ tp p hposition] at hle
  have hsplit : before ++ endRequest o tp :: .position tp :: rest
      = (before ++ [endRequest o tp]) ++ .position tp :: rest := by simp
  rw [hsplit, Network.after_append]
  refine Int.le_trans hle (C.position_le_after (fun r hr => reads r ?_) _ tp)
  exact List.mem_append_right _ (List.mem_cons_of_mem _ hr)

end Told

end TopicReader
