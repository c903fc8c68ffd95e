import TopicReader.Client.Script
import TopicReader.Proofs.Run.Whole

/-!
# `Proofs.Run.Release` — what a run opens, it closes

A run may fail at any of its calls, and the streams that are open at that moment are closed in one of two
places: by the opening itself, if one stream of a topic cannot be opened, or at the end. Together they close
each stream once, and the client's stop is the last call of every run.

## Contents
- **The law.** `Released` says it of a history.
- **Parts.** `Goes.released`: a run that goes through its parts keeps it.
- **Whole runs.** `opening` and `told`: a run at its start, and its history. `consume_goes`, and `consume_releases`
  over every client, sink and standing.
-/

namespace TopicReader

variable {σ : Type}

/-! ## The law -/

/-- **A run releases what it holds.** The client's start comes first, and its stop comes last and only there. The
    parts of the run follow each other: what opens streams, then polls and uses of the sink, then what closes them.
    A close is asked for once for each stream that was opened, the latest first, whatever comes of it. Before the
    first poll or use of the sink, every stream of the topic that is to be read was opened. -/
structure Released (s : Settings) (hs : List Happening) : Prop where
  start : ∃ reply rest, hs = .called .start reply :: rest
  stop : ∃ reply rest, hs = rest ++ [.called .stop reply] ∧ ∀ h ∈ rest, h.event ≠ .call .stop
  order : hs.Pairwise fun g h => g.event.stage.rank ≤ h.event.stage.rank
  closes : closedIn hs = (openedIn hs).reverse
  ready : (∃ h ∈ hs, h.event.stage = .transfer) →
    ∃ opened, Run.Chosen s hs opened ∧ openedIn hs = opened.map (s.topic, ·)

/-! ## Parts -/

theorem AllAt.rank {stage : Stage} {hs : List Happening} (h : AllAt stage hs) :
    ∀ x ∈ hs, x.event.stage.rank = stage.rank := fun x hx => congrArg Stage.rank (h x hx)

/-- The happenings of one part are in order. -/
theorem AllAt.order {stage : Stage} {hs : List Happening} (h : AllAt stage hs) :
    hs.Pairwise fun g h => g.event.stage.rank ≤ h.event.stage.rank :=
  List.pairwise_of_forall_mem_list fun x hx y hy => by rw [h.rank x hx, h.rank y hy]

/-- The client is stopped in the last part only. -/
theorem AllAt.ne_stop {stage : Stage} {hs : List Happening} (h : AllAt stage hs) (hne : stage ≠ .ending) :
    ∀ x ∈ hs, x.event ≠ .call .stop := fun x hx heq => hne (by rw [← h x hx, heq]; rfl)

/-- What consists of a setup, a transfer, closes and the client's stop is in order, and the client is stopped
    once. -/
theorem order_of_parts {ps ls gs : List Happening} (setup : AllAt .setup ps) (transfer : AllAt .transfer ls)
    (closing : AllAt .closing gs) (reply : Reply Yield) :
    (ps ++ ls ++ gs ++ [Happening.called .stop reply]).Pairwise
        (fun g h => g.event.stage.rank ≤ h.event.stage.rank)
      ∧ ∀ h ∈ ps ++ ls ++ gs, h.event ≠ .call .stop := by
  have hend : AllAt .ending [.called .stop reply] := .one rfl
  refine ⟨?_, ?_⟩
  · refine List.pairwise_append.mpr ⟨List.pairwise_append.mpr ⟨List.pairwise_append.mpr
      ⟨setup.order, transfer.order, ?_⟩, closing.order, ?_⟩, hend.order, ?_⟩
    · intro x hx y hy
      rw [setup.rank x hx, transfer.rank y hy]; decide
    · intro x hx y hy
      rw [closing.rank y hy]
      rcases List.mem_append.mp hx with hx | hx
      · rw [setup.rank x hx]; decide
      · rw [transfer.rank x hx]; decide
    · intro x hx y hy
      rw [hend.rank y hy]
      cases x.event.stage <;> decide
  · exact List.forall_mem_append.mpr ⟨List.forall_mem_append.mpr
      ⟨setup.ne_stop (by decide), transfer.ne_stop (by decide)⟩, closing.ne_stop (by decide)⟩

namespace Run

variable {c : Client σ}

/-- What was chosen to be opened is chosen by the history of the whole run. -/
theorem Connected.chosen_of_parts {s : Settings} {start : Offset} {hs ls gs : List Happening} {opened : List Int}
    (h : Connected s start hs opened) (transfer : AllAt .transfer ls) (closing : AllAt .closing gs)
    (reply : Reply Yield) : Chosen s (hs ++ ls ++ (gs ++ [.called .stop reply])) opened := by
  have hend : AllAt .ending [.called .stop reply] := .one rfl
  obtain ⟨m, ids, hmetadata, hids, hselected⟩ := h.chosen
  refine ⟨m, ids, ?_, hids, hselected⟩
  rw [metadataIn_append, metadataIn_append, metadataIn_append, hmetadata, metadataIn_eq_nil transfer (by decide),
    metadataIn_eq_nil closing (by decide), metadataIn_eq_nil hend (by decide)]
  rfl

/-- **A run that goes through its parts** releases what it holds. -/
theorem Goes.released {s : Settings} {start : Offset} {sink : Sink} {fuel : Nat} {st last : Standing}
    {hs : List Happening} {ending : Ending} {output : Output}
    (h : Goes c s start sink fuel st hs ending last output) : Released s hs := by
  have hend : ∀ reply, AllAt .ending [.called .stop reply] :=
    fun _ => .one rfl
  cases h with
  | @thwarted hs gs reply thwarted =>
    obtain ⟨started, rest, rfl⟩ := thwarted.first
    -- Nothing was transferred, so the three parts are the setup, nothing, and the closes.
    have hnone : AllAt .transfer [] := .nil
    obtain ⟨horder, hstop⟩ := order_of_parts thwarted.setup hnone thwarted.closing reply
    rw [List.append_nil] at horder hstop
    refine ⟨⟨started, _, rfl⟩, ⟨reply, _, rfl, hstop⟩, horder, ?_, ?_⟩
    · rw [closedIn_append, closedIn_append, closedIn_eq_nil thwarted.setup (by decide),
        closedIn_eq_nil (hend reply) (by decide), openedIn_append, openedIn_append,
        openedIn_eq_nil thwarted.closing (by decide), openedIn_eq_nil (hend reply) (by decide), List.nil_append,
        List.append_nil, List.append_nil, List.append_nil]
      exact thwarted.undone
    · intro ⟨x, hx, hstage⟩
      rcases List.mem_append.mp hx with hx | hx
      · rcases List.mem_append.mp hx with hx | hx
        · cases (thwarted.setup x hx).symm.trans hstage
        · cases (thwarted.closing x hx).symm.trans hstage
      · cases (hend reply x hx).symm.trans hstage
  | @through hs ls gs opened reply mid next result connected began transferred flushed closing closed =>
    obtain ⟨started, rest, rfl⟩ := connected.first
    have htransfer := transferred.transfers.stage
    obtain ⟨horder, hstop⟩ := order_of_parts connected.setup htransfer closing reply
    rw [List.append_assoc] at horder
    have hopened : openedIn ((.called .start started :: rest) ++ ls ++ (gs ++ [.called .stop reply]))
        = opened.map (s.topic, ·) := by
      rw [openedIn_append, openedIn_append, openedIn_append, connected.opens,
        openedIn_eq_nil htransfer (by decide), openedIn_eq_nil closing (by decide),
        openedIn_eq_nil (hend reply) (by decide)]
      simp
    refine ⟨⟨started, _, rfl⟩, ⟨reply, _, (List.append_assoc ..).symm, hstop⟩, horder, ?_,
      fun _ => ⟨opened, ?_, ?_⟩⟩
    · rw [closedIn_append, closedIn_append, closedIn_append, closedIn_eq_nil connected.setup (by decide),
        closedIn_eq_nil htransfer (by decide), closedIn_eq_nil (hend reply) (by decide), hopened, closed,
        List.map_reverse]
      simp
    · exact connected.chosen_of_parts htransfer closing reply
    · exact hopened

/-! ## Whole runs -/

/-- A run at its start, which someone may have stopped before. -/
def opening (client : σ) (st : Standing) (j : Journal) : Run σ := { fresh client j with standing := st }

/-- The history of a run: its events, each with what came of it. -/
def told (c : Client σ) (sink : Sink) (client : σ) (run : Run σ) : List Happening :=
  Sides.history c sink run.events.reverse ⟨client, 0, 0⟩

theorem opening_unused (client : σ) (st : Standing) (j : Journal) : Unused (opening client st j) :=
  ⟨rfl, rfl, rfl, rfl⟩

/-- The history of a run is what it added since its start. -/
theorem Adds.told_eq {sink : Sink} {hs : List Happening} {client : σ} {st : Standing} {j : Journal}
    {last : Run σ} (h : Adds c sink hs (opening client st j) last) : last.told c sink client = hs := by
  have hevents : last.events.reverse = hs.map Happening.event := by
    rw [h.events]; simp [opening, fresh]
  rw [told, hevents]
  exact h.history

/-- The history of a run that has ended is what it went through. -/
theorem Leaves.told_eq {sink : Sink} {k : Clock} {hs : List Happening} {ending : Ending} {client : σ}
    {st : Standing} {j : Journal} {last : Run σ} (h : Leaves c sink k hs ending (opening client st j) last) :
    last.told c sink client = hs ∧ last.sides = Sides.after c sink last.events.reverse ⟨client, 0, 0⟩ := by
  have hevents : last.events.reverse = hs.map Happening.event := by
    rw [h.events]; simp [opening, fresh]
  rw [told, hevents]
  exact ⟨h.history, h.sides.symm⟩

/-- Settings that cannot be used change nothing but the log. -/
theorem reject_eq (f : Failure) (run : Run σ) :
    ∃ ending j, run.reject f = (ending, { run with journal := j }) := by
  unfold reject
  split
  · exact ⟨_, _, rfl⟩
  · exact ⟨_, run.journal, rfl⟩

/-- A run that has ended was refused for its settings, or it went through its parts. -/
theorem consume_goes {sink : Sink} {s : Settings} {k : Clock} {fuel : Nat} {client : σ} {st : Standing}
    {j : Journal} {ending : Ending} {last : Run σ}
    (returns : (opening client st j).consume c sink s k fuel = (some ending, last)) :
    (∃ f, starting s = .error f ∧ (opening client st j).reject f = (ending, last))
      ∨ ∃ start, starting s = .ok start
        ∧ Goes c s start sink fuel st (last.told c sink client) ending last.standing last.output
        ∧ Leaves c sink k (last.told c sink client) ending (opening client st j) last := by
  cases hstart : starting s with
  | error f =>
    rw [consume, hstart] at returns
    dsimp only at returns
    refine .inl ⟨f, rfl, ?_⟩
    obtain ⟨hending, hlast⟩ := Prod.mk.inj returns
    rw [← hlast, ← Option.some.inj hending]
  | ok start =>
    rw [consume_eq hstart] at returns
    have hgoes := consumeFrom_goes c sink s k start fuel (opening client st j) (opening_unused client st j)
    rw [returns] at hgoes
    obtain ⟨hs, hgoes, hleaves⟩ := hgoes
    refine .inr ⟨start, rfl, ?_⟩
    rw [hleaves.told_eq.1]
    exact ⟨hgoes, hleaves⟩

/-- **A run releases what it holds**, whatever fails and whoever stops it. With settings that cannot be used, it
    asks for nothing and leaves the sink alone; otherwise its history keeps the law. -/
theorem consume_releases (c : Client σ) (sink : Sink) (s : Settings) (k : Clock) (fuel : Nat) (client : σ)
    (st : Standing) (j : Journal) (ending : Ending) (last : Run σ)
    (returns : (opening client st j).consume c sink s k fuel = (some ending, last)) :
    last.sides = Sides.after c sink last.events.reverse ⟨client, 0, 0⟩
      ∧ match starting s with
        | .error _ => last.events = [] ∧ last.output = .empty
        | .ok _ => Released s (last.told c sink client) := by
  rcases consume_goes returns with ⟨f, hstart, hrejected⟩ | ⟨start, hstart, hgoes, hleaves⟩
  · obtain ⟨_, j', hreject⟩ := reject_eq f (opening client st j)
    rw [hreject] at hrejected
    cases hrejected
    rw [hstart]
    exact ⟨rfl, rfl, rfl⟩
  · rw [hstart]
    exact ⟨hleaves.told_eq.2, hgoes.released⟩

/-- Of three streams the last one cannot be opened, one of the others cannot be closed, and the client cannot be
    stopped. -/
theorem consume_releases_of_script :
    let fault : Failure := .foreign (.plain "RuntimeError" "no")
    let script : Script := ⟨none, some fault, none, [(2, fault)], [(0, fault)],
      ⟨"events", true, none, [⟨2, none⟩, ⟨0, none⟩, ⟨1, none⟩]⟩, [], none, 0⟩
    let outcome := (opening script .running .empty).consume Script.client .steady (.usual "events")
      ⟨.zero false, .zero false⟩ 5
    outcome.1 = some .fatal ∧ Released (.usual "events") (outcome.2.told Script.client .steady script) := by
  intro fault script outcome
  have hids : script.metadata.partitionsFor "events" none = .ok [0, 1, 2] := by
    refine partitionsFor_healthy rfl rfl (by simp [script]) (by simp [script]) "events" ?_
    simp [script, TopicMetadata.ascending, List.mergeSort, List.MergeSort.Internal.splitInTwo]
  have hfatal : outcome.1 = some .fatal := by
    show (consumeFrom Script.client .steady (.usual "events") _ .earliest 5 _).1 = _
    unfold consumeFrom body
    rw [connect_eq Script.client rfl usual_timed rfl hids]
    rfl
  refine ⟨hfatal, ?_⟩
  exact (consume_releases Script.client .steady (.usual "events") _ 5 script .running .empty .fatal outcome.2
    (eq_mk_of_fst hfatal)).2

end Run

end TopicReader
