import Mathlib.Data.Finset.Card
import Mathlib.Data.Finset.Lattice.Lemmas
import TopicReader.EndTracker

/-!
# `Proofs.EndTracker` — a tracker knows the set of ended partitions

A tracker keeps a list of partitions at their end. What it answers depends only on the *set* `ended` of all
partitions whose end was observed so far, in scope or not: `EndTracker.Holds` is that invariant, `observe_holds`
says that observing keeps it, and `observe_isOver` says when an end is the one with which the run is over.

## Contents
- **The scope.** The scope of a tracker holds each partition once.
- **The invariant.** `EndTracker.Holds`, from `ofPartitions_holds` on.
- **Observing.** `observe_holds`, `observe_isOver`.
- **All ends.** `mem_of_goal_le`.
-/

namespace TopicReader.EndTracker

/-! ## The scope -/

theorem nodup_eraseDups (ps : List Int) : ps.eraseDups.Nodup := by
  cases ps with
  | nil => exact List.nodup_nil
  | cons q rest =>
    rw [List.eraseDups_cons, List.nodup_cons, List.mem_eraseDups]
    exact ⟨by simp, nodup_eraseDups (rest.filter fun b => !b == q)⟩
termination_by ps.length
decreasing_by exact Nat.lt_succ_of_le (List.length_filter_le _ _)

theorem toFinset_eraseDups (ps : List Int) : ps.eraseDups.toFinset = ps.toFinset := by
  ext p; rw [List.mem_toFinset, List.mem_toFinset, List.mem_eraseDups]

/-- The number of ends at which the run is over: one, or one for each partition in scope. -/
def goal (ps : List Int) (single : Bool) : Nat := if single then 1 else ps.toFinset.card

/-! ## The invariant -/

/-- The ends that count: those of partitions in scope, if ends count at all. -/
def counted (ps : List Int) (active : Bool) (ended : Finset Int) : Finset Int :=
  if active then ended ∩ ps.toFinset else ∅

/-- **What a tracker knows** when the ends of the partitions `ended` were observed. -/
structure Holds (ps : List Int) (single active : Bool) (ended : Finset Int) (t : EndTracker) : Prop where
  scope : t.scope = ps.eraseDups
  single_eq : t.single = single
  active_eq : t.active = active
  nodup : t.atEnd.Nodup
  ends : t.atEnd.toFinset = counted ps active ended

theorem ofPartitions_holds (ps : List Int) (single active : Bool) :
    Holds ps single active ∅ (ofPartitions ps single active) where
  scope := rfl
  single_eq := rfl
  active_eq := rfl
  nodup := List.nodup_nil
  ends := by unfold counted; split <;> rfl

variable {ps : List Int} {single active : Bool} {ended : Finset Int} {t : EndTracker}

namespace Holds

theorem threshold (h : Holds ps single active ended t) : t.threshold = goal ps single := by
  have hcard : ps.eraseDups.length = ps.toFinset.card := by
    rw [← toFinset_eraseDups, List.toFinset_card_of_nodup (nodup_eraseDups ps)]
  rw [EndTracker.threshold, goal, h.single_eq, h.scope, hcard]

theorem count (h : Holds ps single active ended t) : t.count = (counted ps active ended).card := by
  rw [EndTracker.count, ← List.toFinset_card_of_nodup h.nodup, h.ends]

theorem contains_scope (h : Holds ps single active ended t) (p : Int) :
    t.scope.contains p = true ↔ p ∈ ps := by
  rw [h.scope, List.contains_iff_mem, List.mem_eraseDups]

theorem isAtEnd (h : Holds ps single active ended t) (p : Int) :
    t.isAtEnd p = true ↔ p ∈ counted ps active ended := by
  rw [EndTracker.isAtEnd, List.contains_iff_mem, ← List.mem_toFinset, h.ends]

end Holds

/-! ## Observing -/

theorem counted_insert_of_mem {p : Int} (hp : p ∈ ps) :
    counted ps true (insert p ended) = insert p (counted ps true ended) := by
  simp only [counted, if_true]
  exact Finset.insert_inter_of_mem (List.mem_toFinset.mpr hp)

theorem counted_insert_of_notMem {p : Int} (hp : p ∉ ps) :
    counted ps active (insert p ended) = counted ps active ended := by
  unfold counted
  split
  · exact Finset.insert_inter_of_notMem (fun h => hp (List.mem_toFinset.mp h))
  · rfl

/-- **Observing an end** keeps the invariant, with one more partition. -/
theorem observe_holds (h : Holds ps single active ended t) (p : Int) :
    Holds ps single active (insert p ended) (t.observe p).2 := by
  unfold observe
  by_cases hscope : t.scope.contains p = true
  · have hp : p ∈ ps := (h.contains_scope p).mp hscope
    rw [if_neg (by rw [hscope]; decide)]
    by_cases hact : t.active = true
    · have hactive : active = true := h.active_eq ▸ hact
      subst hactive
      rw [if_neg (by simp [hact])]
      by_cases hend : t.isAtEnd p = true
      · rw [if_pos hend]
        refine ⟨h.scope, h.single_eq, h.active_eq, h.nodup, ?_⟩
        rw [counted_insert_of_mem hp, Finset.insert_eq_of_mem ((h.isAtEnd p).mp hend), h.ends]
      · -- The end is new, so the list of ends stays without duplicates.
        rw [if_neg hend]
        refine ⟨h.scope, h.single_eq, h.active_eq, ?_, ?_⟩
        · refine List.nodup_cons.mpr ⟨fun hmem => hend ?_, h.nodup⟩
          exact List.contains_iff_mem.mpr hmem
        · rw [counted_insert_of_mem hp, List.toFinset_cons, h.ends]
    · -- Where ends do not count, none of them is kept.
      have hactive : active = false := by rw [← h.active_eq]; simpa using hact
      subst hactive
      rw [if_pos (by simp [hact])]
      exact ⟨h.scope, h.single_eq, h.active_eq, h.nodup, h.ends⟩
  · -- Of the other partitions the ends are counted nowhere.
    have hp : p ∉ ps := fun hp => hscope ((h.contains_scope p).mpr hp)
    rw [if_pos (by simpa using hscope)]
    exact ⟨h.scope, h.single_eq, h.active_eq, h.nodup, by rw [counted_insert_of_notMem hp, h.ends]⟩

/-- **The run is over with an end** exactly when that end adds to the ends that count and they are then as many
    as it takes. -/
theorem observe_isOver (h : Holds ps single active ended t) (p : Int) :
    (t.observe p).1.isOver = true ↔
      (counted ps active ended).card < (counted ps active (insert p ended)).card
        ∧ goal ps single ≤ (counted ps active (insert p ended)).card := by
  have hafter := (observe_holds h p).count
  have hbefore := h.count
  have hgoal := h.threshold
  rw [← hafter, ← hbefore, ← hgoal]
  unfold observe
  split
  · simp [EndNotice.isOver]
  split
  · simp [EndNotice.isOver]
  split
  · simp [EndNotice.isOver]
  · simp [EndNotice.isOver, EndTracker.count, EndTracker.threshold]

/-! ## All ends -/

/-- **With as many ends as it takes** every partition in scope is at its end. One end alone is enough only where
    there is only one partition. -/
theorem mem_of_goal_le (alone : single = true → ps.length ≤ 1)
    (enough : goal ps single ≤ (counted ps true ended).card) : ∀ p ∈ ps, p ∈ ended := by
  have hcard : ps.toFinset.card ≤ goal ps single := by
    rw [goal]
    split
    · rename_i hsingle
      exact Nat.le_trans (List.toFinset_card_le ps) (alone hsingle)
    · exact Nat.le_refl _
  have hall : ended ∩ ps.toFinset = ps.toFinset := by
    apply Finset.eq_of_subset_of_card_le Finset.inter_subset_right
    exact Nat.le_trans hcard enough
  intro p hp
  have hmem : p ∈ ended ∩ ps.toFinset := by rw [hall]; exact List.mem_toFinset.mpr hp
  exact (Finset.mem_inter.mp hmem).1

end TopicReader.EndTracker
