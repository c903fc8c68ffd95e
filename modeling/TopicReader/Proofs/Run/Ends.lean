import TopicReader.Proofs.EndTracker
import TopicReader.Proofs.Run.Calls

/-!
# `Proofs.Run.Ends` — the ends of partitions stop a run once they are as many as it takes

A run observes ends one after the other, of partitions in scope and of others, some of them more than once; in
between someone else may stop it. `stopOf` says, from the ends alone, which of these events stops a run: nothing in
it knows of a tracker. What is left is the set `reached` of the partitions in scope whose end was seen, and
`watch_stops` says that a tracker knows nothing but that set.

## Contents
- **Events.** `EndEvent`, `reached`, `Run.see` and `Run.watch`.
- **The reference.** `cause?` and `stopOf`: the first event that is a reason to stop.
- **Enough ends.** `Enough`: with as many ends as it takes, something has stopped the run.
- **Watching.** `watch_holds` for the tracker, `watch_standing` for the run, and both in `watch_stops`.
-/

namespace TopicReader

open EndTracker (goal counted Holds)

variable {σ : Type}

/-! ## Events -/

/-- What a run that waits for ends meets: the end of a partition, or someone who stops it. -/
inductive EndEvent where
  | ended (topic : String) (partition offset : Int)
  | stop (reason : String)
deriving DecidableEq, Repr

namespace EndEvent

/-- The partition whose end it is. -/
def partition? : EndEvent → Option Int
  | ended _ p _ => some p
  | stop _ => none

/-- Is it the end of a partition? -/
def isEnd (e : EndEvent) : Bool := e.partition?.isSome

end EndEvent

/-- The partitions whose end was met. -/
def endsMet (es : List EndEvent) : Finset Int := (es.filterMap EndEvent.partition?).toFinset

/-- The partitions in scope whose end was met. -/
def reached (ps : List Int) (es : List EndEvent) : Finset Int := endsMet es ∩ ps.toFinset

theorem endsMet_ended (es : List EndEvent) (topic : String) (p o : Int) :
    endsMet (es ++ [.ended topic p o]) = insert p (endsMet es) := by
  rw [endsMet, List.filterMap_append, List.toFinset_append, Finset.union_comm]; rfl

theorem endsMet_stop (es : List EndEvent) (reason : String) : endsMet (es ++ [.stop reason]) = endsMet es := by
  rw [endsMet, List.filterMap_append, List.toFinset_append]
  exact Finset.union_empty _

theorem reached_ended (ps : List Int) (es : List EndEvent) (topic : String) (p o : Int) :
    reached ps (es ++ [.ended topic p o]) = if p ∈ ps then insert p (reached ps es) else reached ps es := by
  unfold reached
  rw [endsMet_ended]
  by_cases hp : p ∈ ps
  · rw [if_pos hp, Finset.insert_inter_of_mem (List.mem_toFinset.mpr hp)]
  · rw [if_neg hp, Finset.insert_inter_of_notMem (fun h => hp (List.mem_toFinset.mp h))]

theorem reached_stop (ps : List Int) (es : List EndEvent) (reason : String) :
    reached ps (es ++ [.stop reason]) = reached ps es := by
  rw [reached, endsMet_stop]; rfl

theorem reached_subset (ps : List Int) (es : List EndEvent) : reached ps es ⊆ ps.toFinset :=
  Finset.inter_subset_right

namespace Run

/-- Meet one event. -/
def see (run : Run σ) : EndEvent → Run σ
  | .ended topic p o => (run.observe topic p o).2
  | .stop reason => run.halt reason

/-- Meet events, one after the other. -/
def watch (run : Run σ) (es : List EndEvent) : Run σ := es.foldl see run

theorem watch_append (run : Run σ) (es fs : List EndEvent) : run.watch (es ++ fs) = (run.watch es).watch fs :=
  List.foldl_append

end Run

/-! ## The reference -/

/-- **Is an event a reason to stop**, after those before it? Whoever stops the run gives one. The end of a partition
    in scope is one if ends count and the partitions that have reached it are now as many as it takes. -/
def cause? (ps : List Int) (single active : Bool) (before : List EndEvent) (e : EndEvent) : Option String :=
  match e with
  | .stop reason => some reason
  | .ended _ p _ =>
    if active = true ∧ p ∈ ps ∧ goal ps single ≤ (reached ps (before ++ [e])).card then some "eof" else none

/-- The first reason to stop among events that come after some others. -/
def stopOf (ps : List Int) (single active : Bool) (before : List EndEvent) : List EndEvent → Option String
  | [] => none
  | e :: rest => (cause? ps single active before e).or (stopOf ps single active (before ++ [e]) rest)

variable {ps : List Int} {single active : Bool} {before es : List EndEvent} {e : EndEvent}

theorem stopOf_append (fs : List EndEvent) :
    stopOf ps single active before (es ++ fs)
      = (stopOf ps single active before es).or (stopOf ps single active (before ++ es) fs) := by
  induction es generalizing before with
  | nil => simp [stopOf]
  | cons e rest ih => simp [stopOf, ih, Option.or_assoc]

/-- The last event is the reason to stop if there was none before. -/
theorem stopOf_snoc :
    stopOf ps single active [] (es ++ [e])
      = (stopOf ps single active [] es).or (cause? ps single active es e) := by
  rw [stopOf_append, stopOf, stopOf, Option.or_none, List.nil_append]

/-! ## Enough ends -/

/-- Some ends were met, and they are as many as it takes. -/
def Enough (ps : List Int) (single : Bool) (es : List EndEvent) : Prop :=
  (reached ps es).Nonempty ∧ goal ps single ≤ (reached ps es).card

theorem not_enough_nil (ps : List Int) (single : Bool) : ¬ Enough ps single [] := by
  rintro ⟨⟨p, hp⟩, -⟩
  simp [reached, endsMet] at hp

theorem Enough.snoc (h : Enough ps single es) (e : EndEvent) : Enough ps single (es ++ [e]) := by
  obtain ⟨hsome, hgoal⟩ := h
  have hsubset : reached ps es ⊆ reached ps (es ++ [e]) := by
    cases e with
    | stop reason => rw [reached_stop]
    | ended topic p o =>
      rw [reached_ended]
      split
      · exact Finset.subset_insert p _
      · exact Finset.Subset.refl _
  exact ⟨hsome.mono hsubset, Nat.le_trans hgoal (Finset.card_le_card hsubset)⟩

/-- Where an event makes the ends enough, it is a reason to stop. -/
theorem cause?_of_enough (hbefore : ¬ Enough ps single es) (h : Enough ps single (es ++ [e])) :
    cause? ps single true es e = some "eof" := by
  cases e with
  | stop reason =>
    -- Someone else's stop adds no end.
    refine absurd ?_ hbefore
    unfold Enough at h ⊢
    rwa [reached_stop] at h
  | ended topic p o =>
    by_cases hp : p ∈ ps
    · exact if_pos ⟨rfl, hp, h.2⟩
    · refine absurd ?_ hbefore
      unfold Enough at h ⊢
      rwa [reached_ended, if_neg hp] at h

/-- **With enough ends** something has stopped the run. -/
theorem stopOf_of_enough (h : Enough ps single es) : (stopOf ps single true [] es).isSome = true := by
  induction es using List.reverseRecOn with
  | nil => exact absurd h (not_enough_nil ps single)
  | append_singleton es e ih =>
    rw [stopOf_snoc, Option.isSome_or, Bool.or_eq_true]
    by_cases hbefore : Enough ps single es
    · exact .inl (ih hbefore)
    · right
      rw [cause?_of_enough hbefore h]; rfl

/-- Where nobody else stops the run, it is stopped exactly when there are enough ends. -/
theorem stopOf_of_ends (ends : ∀ e ∈ es, e.isEnd = true) (why : String) :
    stopOf ps single active [] es = some why ↔ active = true ∧ Enough ps single es ∧ why = "eof" := by
  induction es using List.reverseRecOn generalizing why with
  | nil => simp [stopOf, not_enough_nil]
  | append_singleton es e ih =>
    have hends : ∀ e ∈ es, e.isEnd = true := fun x hx => ends x (List.mem_append_left _ hx)
    have hend : e.isEnd = true := ends e (by simp)
    rw [stopOf_snoc, Option.or_eq_some_iff, ih hends]
    cases e with
    | stop reason => cases hend
    | ended topic p o =>
      constructor
      · rintro (⟨hactive, hbefore, rfl⟩ | ⟨-, hcause⟩)
        · exact ⟨hactive, hbefore.snoc _, rfl⟩
        · rw [cause?, Option.ite_none_right_eq_some] at hcause
          obtain ⟨⟨hactive, hp, hgoal⟩, heof⟩ := hcause
          cases heof
          refine ⟨hactive, ⟨⟨p, ?_⟩, hgoal⟩, rfl⟩
          rw [reached_ended, if_pos hp]
          exact Finset.mem_insert_self p _
      · rintro ⟨rfl, henough, rfl⟩
        by_cases hbefore : Enough ps single es
        · exact .inl ⟨rfl, hbefore, rfl⟩
        · refine .inr ⟨?_, cause?_of_enough hbefore henough⟩
          -- There was no reason before: it would have come from enough ends.
          refine Option.eq_none_iff_forall_ne_some.mpr fun why hwhy => hbefore ?_
          exact ((ih hends why).mp hwhy).2.1

namespace Run

/-! ## Watching -/

/-- **What the tracker of a run knows** after events are the partitions whose end was met. -/
theorem watch_holds {run : Run σ} (tracker : run.tracker = .ofPartitions ps single active) (es : List EndEvent) :
    Holds ps single active (endsMet es) (run.watch es).tracker := by
  induction es using List.reverseRecOn with
  | nil =>
    show Holds ps single active ∅ run.tracker
    rw [tracker]
    exact EndTracker.ofPartitions_holds ps single active
  | append_singleton es e ih =>
    rw [watch_append]
    cases e with
    | stop reason =>
      show Holds ps single active _ ((run.watch es).halt reason).tracker
      rw [halt_eq, endsMet_stop]
      exact ih
    | ended topic p o =>
      show Holds ps single active _ ((run.watch es).observe topic p o).2.tracker
      rw [observe_eq, endsMet_ended]
      exact EndTracker.observe_holds ih p

theorem counted_endsMet (h : active = true) (es : List EndEvent) :
    counted ps active (endsMet es) = reached ps es := by
  rw [h]; rfl

/-- An end with which the tracker says that the run is over is a reason to stop, and there is no other one unless
    there were enough ends before. -/
theorem isOver_cause {run : Run σ} (tracker : run.tracker = .ofPartitions ps single active) (es : List EndEvent)
    (topic : String) (p o : Int) :
    if ((run.watch es).tracker.observe p).1.isOver = true
      then cause? ps single active es (.ended topic p o) = some "eof"
      else cause? ps single active es (.ended topic p o) = none ∨ active = true ∧ Enough ps single es := by
  have hover := EndTracker.observe_isOver (watch_holds tracker es) p
  cases active with
  | false =>
    -- Where ends do not count, there is no such end.
    have hnot : ¬ ((run.watch es).tracker.observe p).1.isOver = true := by
      rw [hover]; simp [counted]
    rw [if_neg hnot]
    left
    unfold cause?
    exact if_neg fun h => absurd h.1 Bool.false_ne_true
  | true =>
    rw [← endsMet_ended es topic p o, counted_endsMet rfl, counted_endsMet rfl, reached_ended] at hover
    unfold cause?
    rw [reached_ended]
    by_cases hp : p ∈ ps
    · rw [if_pos hp] at hover ⊢
      by_cases hold : p ∈ reached ps es
      · -- The end was met before, so either it was one of too few, or there were enough before it.
        rw [Finset.insert_eq_of_mem hold] at hover ⊢
        rw [if_neg (fun h => Nat.lt_irrefl _ (hover.mp h).1)]
        by_cases hgoal : goal ps single ≤ (reached ps es).card
        · exact .inr ⟨rfl, ⟨p, hold⟩, hgoal⟩
        · exact .inl (if_neg fun h => hgoal h.2.2)
      · rw [Finset.card_insert_of_notMem hold] at hover ⊢
        by_cases hgoal : goal ps single ≤ (reached ps es).card + 1
        · rw [if_pos (hover.mpr ⟨Nat.lt_succ_self _, hgoal⟩)]
          exact if_pos ⟨rfl, hp, hgoal⟩
        · rw [if_neg fun h => hgoal (hover.mp h).2]
          exact .inl (if_neg fun h => hgoal h.2.2)
    · rw [if_neg hp] at hover
      rw [if_neg fun h => Nat.lt_irrefl _ (hover.mp h).1]
      exact .inl (if_neg fun h => hp h.2.1)

/-- **How the run stands** after events: it is stopped for the first reason there was, unless it was stopped before. -/
theorem watch_standing {run : Run σ} (tracker : run.tracker = .ofPartitions ps single active) (es : List EndEvent) :
    (run.watch es).standing = run.standing.after (stopOf ps single active [] es) := by
  induction es using List.reverseRecOn with
  | nil => rfl
  | append_singleton es e ih =>
    rw [watch_append, stopOf_snoc, ← Standing.after_after, ← ih]
    cases e with
    | stop reason =>
      show ((run.watch es).halt reason).standing = _
      rw [halt_eq]; rfl
    | ended topic p o =>
      have hcause := isOver_cause tracker es topic p o
      show ((run.watch es).observe topic p o).2.standing = _
      rw [observe_eq]
      dsimp only
      by_cases hover : ((run.watch es).tracker.observe p).1.isOver = true
      · rw [if_pos hover] at hcause ⊢
        rw [hcause]; rfl
      · rw [if_neg hover] at hcause ⊢
        rcases hcause with hnone | ⟨rfl, henough⟩
        · rw [hnone]; rfl
        · -- Something had stopped the run before, so a further reason changes nothing.
          obtain ⟨why, hwhy⟩ := Option.isSome_iff_exists.mp (stopOf_of_enough henough)
          rw [ih, hwhy]
          cases run.standing with
          | running => exact (Standing.after_stopped why _).symm
          | stopped earlier => exact (Standing.after_stopped earlier _).symm

/-- An end changes nothing in a tracker for which ends do not count. -/
theorem watch_tracker_of_idle {run : Run σ} (tracker : run.tracker = .ofPartitions ps single false)
    (es : List EndEvent) : (run.watch es).tracker = run.tracker := by
  induction es using List.reverseRecOn with
  | nil => rfl
  | append_singleton es e ih =>
    rw [watch_append]
    cases e with
    | stop reason =>
      show ((run.watch es).halt reason).tracker = _
      rw [halt_eq, ← ih]
    | ended topic p o =>
      show ((run.watch es).observe topic p o).2.tracker = _
      rw [observe_eq]
      dsimp only
      rw [ih, tracker]
      unfold EndTracker.observe
      split <;> rfl

/-- **When ends stop a run.** A tracker for partitions `ps` watches ends of any partitions, in any order and as often as
    they come, while others may stop the run as well. It takes one end if one is enough, else that of every partition.
    The run is stopped for the first reason there was, and a reason from before stays. Where ends count, the tracker
    knows the partitions in scope that have reached their end, and their number; where they do not, it stays as it
    was, and no end stops the run. What is left by the ends alone depends on the set of these partitions only. -/
theorem watch_stops (ps : List Int) (single active : Bool) (begun : Run σ) (es : List EndEvent) :
    let run := { begun with tracker := EndTracker.ofPartitions ps single active }
    let last := run.watch es
    last.tracker.threshold = (if single then 1 else ps.toFinset.card)
      ∧ (reached ps es).card ≤ ps.toFinset.card
      ∧ last.standing = run.standing.after (stopOf ps single active [] es)
      ∧ (active = true → last.tracker.count = (reached ps es).card
        ∧ ∀ p, last.tracker.isAtEnd p = true ↔ p ∈ reached ps es)
      ∧ (active = false → last.tracker = run.tracker
        ∧ ((∀ e ∈ es, e.isEnd = true) → last.standing = run.standing))
      ∧ ∀ fs, reached ps fs = reached ps es →
        (run.watch fs).tracker.count = last.tracker.count
          ∧ (∀ p, (run.watch fs).tracker.isAtEnd p = last.tracker.isAtEnd p)
          ∧ ((∀ e ∈ es ++ fs, e.isEnd = true) → (run.watch fs).standing = last.standing) := by
  intro run last
  have hholds : ∀ es, Holds ps single active _ (run.watch es).tracker := watch_holds rfl
  have hstanding : ∀ es, (run.watch es).standing = run.standing.after (stopOf ps single active [] es) :=
    watch_standing rfl
  refine ⟨(hholds es).threshold, Finset.card_le_card (reached_subset ps es), hstanding es, ?_, ?_, ?_⟩
  · intro hactive
    refine ⟨?_, fun p => ?_⟩
    · rw [← counted_endsMet hactive]
      exact (hholds es).count
    · rw [← counted_endsMet hactive]
      exact (hholds es).isAtEnd p
  · rintro rfl
    refine ⟨watch_tracker_of_idle rfl es, fun hends => ?_⟩
    have hnone : stopOf ps single false [] es = none := by
      refine Option.eq_none_iff_forall_ne_some.mpr fun why hwhy => ?_
      have hactive := ((stopOf_of_ends hends why).mp hwhy).1
      cases hactive
    exact (hstanding es).trans (by rw [hnone]; rfl)
  · intro fs hsame
    have hcounted : counted ps active (endsMet fs) = counted ps active (endsMet es) := by
      cases active with
      | false => rfl
      | true => rw [counted_endsMet rfl, counted_endsMet rfl, hsame]
    refine ⟨?_, fun p => ?_, fun hends => ?_⟩
    · rw [(hholds fs).count, (hholds es).count, hcounted]
    · rw [Bool.eq_iff_iff, (hholds fs).isAtEnd p, (hholds es).isAtEnd p, hcounted]
    · obtain ⟨hes, hfs⟩ := List.forall_mem_append.mp hends
      have hstop : stopOf ps single active [] fs = stopOf ps single active [] es := by
        ext why
        rw [stopOf_of_ends hes, stopOf_of_ends hfs, Enough, Enough, hsame]
      rw [hstanding fs, hstop]
      exact (hstanding es).symm

end Run

end TopicReader
