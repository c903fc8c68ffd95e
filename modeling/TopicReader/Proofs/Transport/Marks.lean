import TopicReader.Proofs.Transport.Session

/-!
# `Proofs.Transport.Marks` — the end of a stream is told once for each arrival

The end of a stream is told when it is reached, and not again before something has happened to the stream: a record of
it came, it was opened again, or it was closed. A transport keeps a list for that, which four of its functions read or
change. Here the list is told by what a reader of the transport sees, its *marks*: an end is `Signalled` by marks if it
was told and nothing of the kind has happened since. `TellsOnce` is the invariant that ties the two, and says that no
end is told while it is signalled.

## Contents
- **Marks.** `Mark`, `Served.marks`, `marksOf`; `Mark.tells` and `Mark.rearms`.
- **Signalled ends.** `Signalled`, one mark further by `signalled_snoc`.
- **The invariant.** `TellsOnce`, with `TellsOnce.snoc` for one mark; `TellsOnce.between`.
- **Steps.** `TellsOnce.records` for a fetch, `TellsOnce.checks` for one end, `TellsOnce.reset` for opens and closes.
-/

namespace TopicReader

variable {ν : Type}

/-! ## Marks -/

/-- What a reader of a transport sees: an item, a stream that was opened, or one that was closed. -/
inductive Mark where
  | item (i : Item)
  | opened (tp : TopicPartition)
  | closed (tp : TopicPartition)

namespace Mark

/-- Does it tell the end of a partition? -/
def tells (tp : TopicPartition) : Mark → Bool
  | item (.ended topic p _) => (⟨topic, p⟩ : TopicPartition) = tp
  | _ => false

/-- May the end of a partition be told again after it? It may after a record of the partition, and in another
    opening. -/
def rearms (tp : TopicPartition) : Mark → Bool
  | item (.record r) => r.place = tp
  | opened q | closed q => q = tp
  | _ => false

end Mark

/-- What a reader sees of a call. -/
def Served.marks : Served → List Mark
  | ⟨.openStream topic p _, .ok _⟩ => [.opened ⟨topic, p⟩]
  | ⟨.closeStream topic p, _⟩ => [.closed ⟨topic, p⟩]
  | ⟨.poll _, .ok items⟩ => items.map .item
  | _ => []

/-- What a reader sees of calls. -/
def marksOf (hs : List Served) : List Mark := hs.flatMap Served.marks

theorem marksOf_snoc (hs : List Served) (h : Served) : marksOf (hs ++ [h]) = marksOf hs ++ h.marks := by
  rw [marksOf, List.flatMap_append, List.flatMap_singleton]
  rfl

/-! ## Signalled ends -/

/-- **The end of a partition is signalled**: it was told, and nothing after which it may be told again came since. -/
def Signalled (tp : TopicPartition) (marks : List Mark) : Prop :=
  ∃ before m since, marks = before ++ m :: since ∧ m.tells tp = true ∧ ∀ x ∈ since, x.rearms tp = false

theorem not_signalled_nil (tp : TopicPartition) : ¬ Signalled tp [] := by
  rintro ⟨before, m, since, hnil, -⟩
  have hlength := congrArg List.length hnil
  simp at hlength

/-- A place in a list that is one longer is its last one, or it is in the list. -/
theorem append_cons_eq_snoc {before since marks : List Mark} {x m : Mark}
    (h : marks ++ [m] = before ++ x :: since) :
    (marks = before ∧ m = x) ∨ ∃ init, since = init ++ [m] ∧ marks = before ++ x :: init := by
  rcases List.eq_nil_or_concat since with rfl | ⟨init, last, rfl⟩
  · obtain ⟨hmarks, hlast⟩ := List.append_inj' h rfl
    cases hlast
    exact .inl ⟨hmarks, rfl⟩
  · rw [List.concat_eq_append, ← List.cons_append, ← List.append_assoc] at h
    obtain ⟨hmarks, hlast⟩ := List.append_inj' h rfl
    cases hlast
    exact .inr ⟨init, List.concat_eq_append, hmarks⟩

/-- **One mark further** an end is signalled if the mark tells it, or if it was signalled and may not be told again. -/
theorem signalled_snoc (tp : TopicPartition) (marks : List Mark) (m : Mark) :
    Signalled tp (marks ++ [m]) ↔ m.tells tp = true ∨ Signalled tp marks ∧ m.rearms tp = false := by
  constructor
  · rintro ⟨before, x, since, heq, htells, hsince⟩
    rcases append_cons_eq_snoc heq with ⟨-, rfl⟩ | ⟨init, rfl, rfl⟩
    · exact .inl htells
    · refine .inr ⟨⟨before, x, init, rfl, htells, fun y hy => hsince y ?_⟩, hsince m ?_⟩
      · exact List.mem_append_left _ hy
      · exact List.mem_append_right _ List.mem_cons_self
  · rintro (htells | ⟨⟨before, x, since, rfl, htells, hsince⟩, hkeeps⟩)
    · exact ⟨marks, m, [], rfl, htells, List.forall_mem_nil _⟩
    · refine ⟨before, x, since ++ [m], by simp, htells, ?_⟩
      exact List.forall_mem_append.mpr ⟨hsince, List.forall_mem_singleton.mpr hkeeps⟩

/-! ## The invariant -/

/-- **The ends that count as told are those that are signalled**, and no end was told while it was signalled. -/
structure TellsOnce (marks : List Mark) (told : List TopicPartition) : Prop where
  told : ∀ tp, tp ∈ told ↔ Signalled tp marks
  once : ∀ tp before m since, marks = before ++ m :: since → m.tells tp = true → ¬ Signalled tp before

namespace TellsOnce

variable {marks : List Mark} {told told' : List TopicPartition}

theorem nil : TellsOnce [] [] where
  told tp := ⟨fun h => absurd h List.not_mem_nil, fun h => absurd h (not_signalled_nil tp)⟩
  once _ before _ _ h := by
    have hlength := congrArg List.length h
    simp at hlength

/-- **One mark further** the invariant holds if only a new end is told, and the list follows. -/
theorem snoc (h : TellsOnce marks told) {m : Mark} (new : ∀ tp, m.tells tp = true → tp ∉ told)
    (follows : ∀ tp, tp ∈ told' ↔ m.tells tp = true ∨ tp ∈ told ∧ m.rearms tp = false) :
    TellsOnce (marks ++ [m]) told' := by
  constructor
  · intro tp
    rw [follows, signalled_snoc, h.told]
  · intro tp before x since heq htells
    rcases append_cons_eq_snoc heq with ⟨rfl, rfl⟩ | ⟨init, rfl, rfl⟩
    · rw [← h.told]
      exact new tp htells
    · exact h.once tp before x init rfl htells

/-- Another list of the same ends will do. -/
theorem congr (h : TellsOnce marks told) (same : ∀ tp, tp ∈ told' ↔ tp ∈ told) : TellsOnce marks told' :=
  ⟨fun tp => (same tp).trans (h.told tp), h.once⟩

/-- **Between two ends** of one partition there is something after which an end may be told again. -/
theorem between (h : TellsOnce marks told) {tp : TopicPartition} {before middle rest : List Mark} {x y : Mark}
    (heq : marks = before ++ x :: (middle ++ y :: rest)) (hx : x.tells tp = true) (hy : y.tells tp = true) :
    ∃ m ∈ middle, m.rearms tp = true := by
  by_contra hnone
  -- Otherwise the first end would still be signalled when the second one is told.
  have hsilent : ∀ m ∈ middle, m.rearms tp = false := by
    intro m hm
    rw [Bool.eq_false_iff]
    exact fun hrearms => hnone ⟨m, hm, hrearms⟩
  have hsplit : marks = (before ++ x :: middle) ++ y :: rest := by rw [heq]; simp
  exact h.once tp _ y rest hsplit hy ⟨before, x, middle, rfl, hx, hsilent⟩

/-! ## Steps -/

/-- **Records** take the streams that they are of out of the list. -/
theorem records (h : TellsOnce marks told) (records : List Record)
    (follows : ∀ tp, tp ∈ told' ↔ tp ∈ told ∧ ∀ r ∈ records, r.place ≠ tp) :
    TellsOnce (marks ++ (records.map .record).map .item) told' := by
  induction records generalizing marks told with
  | nil =>
    rw [List.map_nil, List.map_nil, List.append_nil]
    refine h.congr fun tp => ?_
    rw [follows]
    simp
  | cons r rest ih =>
    -- A record takes only its own stream out; the next ones take theirs out of what is left.
    have hone : TellsOnce (marks ++ [.item (.record r)]) (told.filter (· ≠ r.place)) := by
      refine h.snoc (fun tp htells => by cases htells) fun tp => ?_
      rw [List.mem_filter]
      simp [Mark.tells, Mark.rearms, @eq_comm _ tp r.place]
    have hrest := ih hone fun tp => by
      rw [follows, List.mem_filter, List.forall_mem_cons]
      simp only [ne_eq, decide_not, Bool.not_eq_eq_eq_not, Bool.not_true, decide_eq_false_iff_not]
      rw [and_assoc, eq_comm]
    rw [List.append_assoc] at hrest
    exact hrest

/-- **An open and a close** take their stream out of the list. -/
theorem reset (h : TellsOnce marks told) {tp : TopicPartition} {m : Mark} (resets : m = .opened tp ∨ m = .closed tp)
    (follows : ∀ q, q ∈ told' ↔ q ∈ told ∧ q ≠ tp) : TellsOnce (marks ++ [m]) told' := by
  have hsilent : ∀ q, m.tells q = false ∧ m.rearms q = decide (tp = q) := by
    intro q
    rcases resets with rfl | rfl
    · exact ⟨rfl, rfl⟩
    · exact ⟨rfl, rfl⟩
  refine h.snoc (fun q htells => ?_) fun q => ?_
  · rw [(hsilent q).1] at htells
    cases htells
  · rw [follows, (hsilent q).1, (hsilent q).2]
    simp [@eq_comm _ q tp]

/-- A failure tells no end. -/
theorem failure (h : TellsOnce marks told) (topic : String) (p : Option Int) (f : Failure) :
    TellsOnce (marks ++ [.item (.failed topic p f)]) told := by
  refine h.snoc (fun tp htells => by cases htells) fun tp => ?_
  simp [Mark.tells, Mark.rearms]

/-- **Asking for the end of a stream** tells it only if it is new. -/
theorem checks {n : Network ν} {o : TransportOptions} {tp : TopicPartition} {t : Transport ν} {rs : List Request}
    {item : Option Item} (h : TellsOnce marks t.ended) (g : Transport.Checks n o tp t rs (.ok item) told) :
    TellsOnce (marks ++ item.toList.map .item) told := by
  cases g with
  | known | unknown | before =>
    rw [Option.toList_none, List.map_nil, List.append_nil]
    exact h
  | lost => exact h.failure tp.topic tp.partition _
  | reached new =>
    refine h.snoc (fun q htells => ?_) fun q => ?_
    · obtain rfl : tp = q := of_decide_eq_true htells
      exact new
    · rw [List.mem_cons]
      simp [Mark.tells, Mark.rearms, @eq_comm _ q tp]

end TellsOnce

end TopicReader
