import TopicReader.Proofs.Journal.Bracketing
import TopicReader.Proofs.Journal.Line
import TopicReader.Proofs.Run.Emission

/-!
# `Proofs.Run.Attribution` — which record of the log belongs to which item

While a loop deals with a record or with the end of a partition, the log stands at the position of that item, so that
whatever is written to it meanwhile can be told to belong there. Here it is shown that nothing else is: what is written
while an item is dealt with carries the item's own topic, partition and offset, everything else carries what the log
stood at before the loop, and behind every item, and behind the loop, the log stands there again. The blocks that bring
it back are those of `Proofs.Journal.Bracketing`.

## Contents
- **Carrying.** `Entry.Carries`: what the line of a record says of the item at hand; `Entry.BelongsTo`.
- **Logging.** `Run.Logs`: a stretch of a run that writes at some positions and leaves the log where it was, and
  `Run.Stays`: one that writes where it finds the log; one lemma for each thing a loop does.
- **Blocks.** `Run.atPosition_position` for whatever is done in a block, `Run.atPosition_logs` for what stays there, and
  `Run.atPosition_during`: the blocks of a run are those of programs.
- **Items.** `Run.attended`, `Run.attended_logs`, and `Run.dispatch_logs`.
- **The loop.** `Run.next_logs` for every step, `Run.moment_logs` for every moment, and `Run.loop_brackets_position`.
-/

namespace TopicReader

variable {σ : Type}

/-! ## Carrying -/

/-- **A record carries a position** if its line says what is known of that position, and nothing else of the kind: a
    topic that is not empty, a partition and an offset that are not negative. -/
structure Entry.Carries (e : Entry) (here : Position) : Prop where
  topic : e.known.get? "kafka_topic" = if here.topic = "" then none else some (.text here.topic)
  partition : e.known.get? "kafka_partition" = if here.partition < 0 then none else some (.int here.partition)
  offset : e.known.get? "kafka_offset" = if here.offset < 0 then none else some (.int here.offset)

/-- The position of an item: that of a record, or that of an end. -/
def Item.place? : Item → Option Position
  | .record r => some ⟨r.topic, r.partition, r.offset⟩
  | .ended topic p o => some ⟨topic, p, o⟩
  | .failed .. | .alien _ => none

/-- **A record of the log belongs to an item** if it carries the position of the item. -/
def Entry.BelongsTo (e : Entry) (item : Item) : Prop := ∃ here, item.place? = some here ∧ e.Carries here

/-- What is known of the run has names of its own. -/
theorem get?_runValues {name : String} (foreign : name ∉ ["run_id", "stage", "client_id"]) (run : RunContext) :
    (Line.runValues run).get? name = none := by
  refine Fields.get?_of_notMem fun hmem => foreign ?_
  obtain ⟨f, hf, rfl⟩ := List.mem_map.mp hmem
  exact List.mem_map.mpr ⟨f, (List.mem_filter.mp hf).1, rfl⟩

/-- A record carries the position that the log stood at when it was written. -/
theorem Entry.carries (e : Entry) : e.Carries e.position := by
  have hknown {name : String} (foreign : name ∉ ["run_id", "stage", "client_id"]) :
      e.known.get? name = e.position.fields.get? name := by
    rw [known, Fields.get?_append, get?_runValues foreign, Option.none_or]
  constructor
  all_goals
    rw [hknown (by decide), Position.fields, Fields.get?_append, Fields.get?_append]
    split <;> split <;> split <;> rfl

namespace Run

/-! ## Logging -/

/-- **A stretch logs at some positions**: every record that it adds to the log is at one of them, and the log is left
    where it was. -/
structure Logs (places : Position → Prop) (run run' : Run σ) : Prop where
  position : run'.journal.position = run.journal.position
  written : ∃ new, run'.journal.entries = new ++ run.journal.entries ∧ ∀ e ∈ new, places e.position

/-- **A stretch stays** where it finds the log. -/
def Stays (run run' : Run σ) : Prop := Logs (· = run.journal.position) run run'

theorem Logs.mono {places more : Position → Prop} {run run' : Run σ} (h : Logs places run run')
    (wider : ∀ p, places p → more p) : Logs more run run' := by
  obtain ⟨new, hnew, hplaces⟩ := h.written
  exact ⟨h.position, new, hnew, fun e he => wider e.position (hplaces e he)⟩

theorem Logs.trans {places : Position → Prop} {r₁ r₂ r₃ : Run σ} (h : Logs places r₁ r₂) (g : Logs places r₂ r₃) :
    Logs places r₁ r₃ := by
  obtain ⟨new, hnew, hplaces⟩ := h.written
  obtain ⟨more, gmore, gplaces⟩ := g.written
  refine ⟨g.position.trans h.position, more ++ new, ?_, List.forall_mem_append.mpr ⟨gplaces, hplaces⟩⟩
  rw [gmore, hnew, List.append_assoc]

/-- What does not touch the log stays. -/
theorem Stays.of_same {run run' : Run σ} (same : run'.journal = run.journal) : Stays run run' :=
  ⟨by rw [same], [], by rw [same, List.nil_append], List.forall_mem_nil _⟩

theorem Stays.refl (run : Run σ) : Stays run run := .of_same rfl

theorem Stays.trans {r₁ r₂ r₃ : Run σ} (h : Stays r₁ r₂) (g : Stays r₂ r₃) : Stays r₁ r₃ := by
  refine Logs.trans h ?_
  rw [← h.position]
  exact g

theorem note_stays (level : Level) (origin message : String) (fields : Fields) (run : Run σ) :
    Stays run (run.note level origin message fields) :=
  ⟨rfl, [_], rfl, List.forall_mem_singleton.mpr rfl⟩

theorem halt_stays (reason : String) (run : Run σ) : Stays run (run.halt reason) := by
  have hstopped : Stays run { run with standing := .stopped reason } := .of_same rfl
  unfold halt
  split
  · exact hstopped.trans (note_stays _ _ _ _ _)
  · exact .refl run

theorem absorb_stays (i : Incident) (run : Run σ) : Stays run (run.absorb i) := by
  cases i with
  | stop reason => exact halt_stays reason run
  | note level origin message fields => exact note_stays level origin message fields run

theorem foldl_absorb_stays (is : List Incident) (run : Run σ) : Stays run (is.foldl absorb run) := by
  induction is generalizing run with
  | nil => exact .refl run
  | cons i rest ih => exact (absorb_stays i run).trans (ih (run.absorb i))

theorem ask_stays {α : Type} (call : Call) (f : σ → Reply α × σ) (run : Run σ) : Stays run (run.ask call f).2 := by
  have hcalled : Stays run { run with client := (f run.client).2, events := .call call :: run.events } := .of_same rfl
  exact hcalled.trans (foldl_absorb_stays (f run.client).1.incidents _)

theorem format_stays (sink : Sink) (l : Layout) (r : Record) (run : Run σ) : Stays run (run.format sink l r).2 :=
  .of_same rfl

theorem write_stays (notice : EndNotice) (topic : String) (p o : Int) (run : Run σ) (tracker : EndTracker) :
    Stays run { run with tracker := tracker, journal := notice.write run.journal topic p o } := by
  cases notice with
  | known => exact .of_same rfl
  | outside | noted | counted => exact ⟨rfl, [_], rfl, List.forall_mem_singleton.mpr rfl⟩

theorem observe_stays (topic : String) (p o : Int) (run : Run σ) : Stays run (run.observe topic p o).2 := by
  have hwrite := write_stays (run.tracker.observe p).1 topic p o run (run.tracker.observe p).2
  unfold observe
  dsimp only
  split
  · exact hwrite.trans (halt_stays "eof" _)
  · exact hwrite

theorem count_stays (limit : Limit) (run : Run σ) : Stays run (run.count limit) := by
  have hone : Stays run { run with received := run.received + 1 } := .of_same rfl
  unfold count
  dsimp only
  split
  · split
    · exact (hone.trans (note_stays _ _ _ _ _)).trans (halt_stays "limit" _)
    · exact hone
  · exact hone

/-! ## Blocks -/

section Blocks

variable {α : Type}

/-- **Whatever is done in a block**, the log stands where it stood before when the block is left. -/
theorem atPosition_position (topic : String) (p o : Int) (body : Run σ → α × Run σ) (run : Run σ) :
    (run.atPosition topic p o body).2.journal.position = run.journal.position := rfl

/-- What stays where it finds the log writes at the position of the block. -/
theorem atPosition_logs {body : Run σ → α × Run σ} (stays : ∀ run, Stays run (body run).2) (topic : String)
    (p o : Int) (run : Run σ) : Logs (· = ⟨topic, p, o⟩) run (run.atPosition topic p o body).2 := by
  obtain ⟨new, hnew, hhere⟩ :=
    (stays { run with journal := { run.journal with position := ⟨topic, p, o⟩ } }).written
  exact ⟨atPosition_position topic p o body run, new, hnew, hhere⟩

/-- A program that is carried out in a run moves the position of its log. -/
def during (program : Position.Program) (held : Nat → Position) (run : Run σ) : Except Failure Unit × Run σ :=
  let (result, scene) := program.exec ⟨run.journal.position, held, []⟩
  (result, { run with journal := { run.journal with position := scene.position } })

theorem during_eq (program : Position.Program) (held : Nat → Position) (run : Run σ) :
    during program held run
      = ((program.exec ⟨run.journal.position, held, []⟩).1,
          { run with journal := { run.journal with
            position := (program.exec ⟨run.journal.position, held, []⟩).2.position } }) := rfl

/-- **The blocks of a run are blocks of programs** that set everything, with a holder that nothing in them uses. -/
theorem atPosition_during {holder : Nat} {body : Position.Program} (unnamed : holder ∉ body.holders) (topic : String)
    (p o : Int) (held : Nat → Position) (run : Run σ) :
    run.atPosition topic p o (during body (Function.update held holder run.journal.position))
      = during (.within holder (some topic) (some p) (some o) body) held run := by
  rw [during_eq, Position.Program.exec_within_position unnamed]
  rfl

end Blocks

/-! ## Items -/

/-- Something is done, and other things happen before and after it: the log is written to, or the run is stopped. -/
def amid {α : Type} (earlier later : List Incident) (body : Run σ → α × Run σ) (run : Run σ) : α × Run σ :=
  let (a, run) := body (earlier.foldl absorb run)
  (a, later.foldl absorb run)

theorem amid_stays {α : Type} {body : Run σ → α × Run σ} (stays : ∀ run, Stays run (body run).2)
    (earlier later : List Incident) (run : Run σ) : Stays run (amid earlier later body run).2 :=
  ((foldl_absorb_stays earlier run).trans (stays _)).trans (foldl_absorb_stays later _)

/-- What is done with an item at its position, and what happens beside it: a record is written, an end is observed. -/
def attended (sink : Sink) (l : Layout) (earlier later : List Incident) (item : Item) (run : Run σ) : Run σ :=
  match item with
  | .record r => (run.atPosition r.topic r.partition r.offset (amid earlier later (format sink l r))).2
  | .ended topic p o => (run.atPosition topic p o (amid earlier later (observe topic p o))).2
  | .failed .. | .alien _ => run

/-- **While an item is attended to**, everything is written at its position. -/
theorem attended_logs (sink : Sink) (l : Layout) (earlier later : List Incident) (item : Item) (run : Run σ) :
    Logs (fun p => item.place? = some p) run (run.attended sink l earlier later item) := by
  cases item with
  | record r =>
    have hblock := atPosition_logs (amid_stays (format_stays sink l r) earlier later) r.topic r.partition r.offset run
    exact hblock.mono fun p hp => congrArg some hp.symm
  | ended topic p o =>
    have hblock := atPosition_logs (amid_stays (observe_stays topic p o) earlier later) topic p o run
    exact hblock.mono fun q hq => congrArg some hq.symm
  | failed | alien => exact ⟨rfl, [], rfl, List.forall_mem_nil _⟩

/-- **Dealing with an item** is attending to it; what follows, a record that counts, is written where the log was. -/
theorem dispatch_stays (sink : Sink) (l : Layout) (limit : Limit) (item : Item) (run : Run σ) :
    Stays (run.attended sink l [] [] item) (run.dispatch sink l limit item).2 := by
  cases item with
  | record r =>
    -- A record that was written is counted outside of its block, and the limit may be noted there.
    rw [dispatch, takeRecord]
    show Stays (run.atPosition r.topic r.partition r.offset (format sink l r)).2 _
    cases run.atPosition r.topic r.partition r.offset (format sink l r) with
    | mk result next =>
      cases result with
      | ok u => exact count_stays limit next
      | error f => exact .refl next
  | ended topic p o => exact .refl _
  | failed | alien => exact .refl run

/-- The positions that a loop may write at: where it found the log, and those of some items. -/
def placesOf (before : Position) (items : List Item) (p : Position) : Prop :=
  p = before ∨ ∃ item ∈ items, item.place? = some p

theorem placesOf_mono {before p : Position} {items more : List Item} (wider : items ⊆ more)
    (h : placesOf before items p) : placesOf before more p := by
  rcases h with h | ⟨item, hmem, hplace⟩
  · exact .inl h
  · exact .inr ⟨item, wider hmem, hplace⟩

theorem Stays.logs {run run' : Run σ} (h : Stays run run') (items : List Item) :
    Logs (placesOf run.journal.position items) run run' := Logs.mono h fun _ => .inl

theorem dispatch_logs (sink : Sink) (l : Layout) (limit : Limit) (item : Item) (run : Run σ) :
    Logs (placesOf run.journal.position [item]) run (run.dispatch sink l limit item).2 := by
  have hattended := attended_logs sink l [] [] item run
  have hrest := (dispatch_stays sink l limit item run).logs [item]
  rw [hattended.position] at hrest
  exact (hattended.mono fun p hp => .inr ⟨item, List.mem_singleton_self item, hp⟩).trans hrest

/-! ## The loop -/

/-- What a loop still has to deal with after a step, it had to deal with before, or the step has brought it. -/
theorem Moves.rest_subset {sink : Sink} {l : Layout} {limit : Limit} {hs : List Happening} {m m' : Moment σ}
    (h : Moves sink l limit hs m m') : m'.phase.rest?.getD [] ⊆ m.phase.rest?.getD [] ++ itemsIn hs := by
  cases h with
  | polled =>
    intro item hmem
    simpa [itemsIn, Happening.items, Phase.rest?] using hmem
  | wrote | ended =>
    intro item hmem
    exact List.mem_append_left _ (List.mem_cons_of_mem _ hmem)
  | unpolled | left | emptied | dropped | refused | broken | stayed => exact List.nil_subset _

section Loop

variable (c : Client σ) (sink : Sink) (l : Layout) (limit : Limit)

/-- **A step of a loop** writes where the log is, or at the position of an item that it still has to deal with. -/
theorem next_logs (m : Moment σ) :
    Logs (placesOf m.run.journal.position (m.phase.rest?.getD [])) m.run (m.next c sink l limit).run := by
  obtain ⟨phase, run⟩ := m
  cases phase with
  | finished result => exact (Stays.refl run).logs _
  | asking =>
    cases hrun : run.standing.isRunning with
    | false =>
      rw [Moment.next_asking_of_stopped hrun]
      exact (note_stays _ _ _ _ run).logs _
    | true =>
      have hpoll : Stays run (run.poll c pollWait).2 := ask_stays _ _ run
      cases hresult : run.poll c pollWait with
      | mk result next =>
        rw [hresult] at hpoll
        cases result with
        | ok items =>
          rw [Moment.next_of_polled hrun hresult]
          exact hpoll.logs _
        | error f =>
          rw [Moment.next_of_unpolled hrun hresult]
          exact hpoll.logs _
  | dealing items =>
    cases items with
    | nil => exact (Stays.refl run).logs _
    | cons item rest =>
      cases hrun : run.standing.isRunning with
      | false =>
        rw [Moment.next_dealing_of_stopped hrun]
        exact (Stays.refl run).logs _
      | true =>
        have hdispatch : Logs (placesOf run.journal.position (item :: rest)) run (run.dispatch sink l limit item).2 :=
          (dispatch_logs sink l limit item run).mono fun _ =>
            placesOf_mono (List.cons_subset_cons item (List.nil_subset rest))
        cases hresult : run.dispatch sink l limit item with
        | mk result next =>
          rw [hresult] at hdispatch
          cases result with
          | ok u =>
            rw [Moment.next_of_dispatched hrun hresult]
            exact hdispatch
          | error f =>
            rw [Moment.next_of_refused hrun hresult]
            exact hdispatch

/-- **At every moment of a loop** the log stands where the loop found it, and each record that was written until then is
    there or at the position of an item that a poll has brought. -/
theorem moment_logs (run : Run σ) (k : Nat) :
    ∃ hs, Adds c sink hs run (run.moment c sink l limit k).run
      ∧ (run.moment c sink l limit k).phase.rest?.getD [] ⊆ itemsIn hs
      ∧ Logs (placesOf run.journal.position (itemsIn hs)) run (run.moment c sink l limit k).run := by
  induction k with
  | zero =>
    refine ⟨[], ?_, List.nil_subset _, (note_stays _ _ _ _ run).logs _⟩
    exact (note_passes c sink (by simp [ownKinds]) _ _ run).toAdds
  | succ k ih =>
    obtain ⟨hs, hadds, hrest, hlogs⟩ := ih
    obtain ⟨gs, gadds, hmoves⟩ := next_moves c sink l limit (run.moment c sink l limit k)
    -- What a step writes belongs to something that is still to be dealt with, and all of that was brought before.
    have hstep := next_logs c sink l limit (run.moment c sink l limit k)
    rw [hlogs.position] at hstep
    rw [moment_succ]
    refine ⟨hs ++ gs, hadds.trans gadds, ?_, ?_⟩
    · rw [itemsIn_append]
      exact List.Subset.trans hmoves.rest_subset (List.append_subset.mpr
        ⟨List.subset_append_of_subset_left _ hrest, List.subset_append_right _ _⟩)
    · have hbrought : itemsIn hs ⊆ itemsIn (hs ++ gs) := by
        rw [itemsIn_append]
        exact List.subset_append_left _ _
      exact (hlogs.mono fun _ => placesOf_mono hbrought).trans
        (hstep.mono fun _ => placesOf_mono (List.Subset.trans hrest hbrought))

/-- What a loop comes to, whether it ends, fails or is still polling, stands where the loop found it. -/
theorem loop_position (fuel : Nat) (run : Run σ) :
    (run.loop c sink l limit fuel).2.journal.position = run.journal.position := by
  obtain ⟨k, -, hreached⟩ := loop_reached c sink l limit fuel run
  have hmoment : (cameTo (run.loop c sink l limit fuel)).run.journal.position = run.journal.position := by
    rw [← hreached]
    obtain ⟨hs, -, -, hlogs⟩ := moment_logs c sink l limit run k
    exact hlogs.position
  cases hloop : run.loop c sink l limit fuel with
  | mk result last =>
    rw [hloop] at hmoment
    cases result <;> exact hmoment

/-- **The position of the log is well bracketed.** Every block of a program whose blocks have holders of their own
    brings back the position that was there before, whether its body ends or fails; and the blocks of a run are such
    blocks. So a loop leaves the log where it found it, however it ends. Whatever is written to the log while a record
    is written or an end is observed, by the loop or by anything beside it, belongs to that very item; and at every
    moment of a loop, the log stands where the loop found it, and each of its records belongs to an item that was
    brought or carries the position that the log had before. -/
theorem loop_brackets_position :
    (∀ (program : Position.Program) (start : Position) (held : Nat → Position), program.OwnHolders →
        ∀ p ∈ (program.exec ⟨start, held, []⟩).2.passages, p.after = p.before)
      ∧ (∀ (holder : Nat) (body : Position.Program), holder ∉ body.holders →
          ∀ (topic : String) (p o : Int) (held : Nat → Position) (run : Run σ),
            run.atPosition topic p o (during body (Function.update held holder run.journal.position))
              = during (.within holder (some topic) (some p) (some o) body) held run)
      ∧ (∀ (run : Run σ) (fuel : Nat),
          (run.loop c sink l limit fuel).2.journal.position = run.journal.position)
      ∧ (∀ (run : Run σ) (item : Item),
          Stays (run.attended sink l [] [] item) (run.dispatch sink l limit item).2
            ∧ ∀ earlier later, ∃ new,
              (run.attended sink l earlier later item).journal.entries = new ++ run.journal.entries
                ∧ ∀ e ∈ new, e.BelongsTo item)
      ∧ ∀ (run : Run σ) (k : Nat),
          (run.moment c sink l limit k).run.journal.position = run.journal.position
            ∧ ∃ hs new, Adds c sink hs run (run.moment c sink l limit k).run
              ∧ (run.moment c sink l limit k).run.journal.entries = new ++ run.journal.entries
              ∧ ∀ e ∈ new, e.Carries run.journal.position ∨ ∃ item ∈ itemsIn hs, e.BelongsTo item := by
  refine ⟨fun program start held own => ?_, fun holder body unnamed topic p o held run => ?_, ?_, ?_, ?_⟩
  · exact Position.Program.exec_balanced own (s := ⟨start, held, []⟩) (List.forall_mem_nil _)
  · exact atPosition_during unnamed topic p o held run
  · exact fun run fuel => loop_position c sink l limit fuel run
  · intro run item
    refine ⟨dispatch_stays sink l limit item run, fun earlier later => ?_⟩
    obtain ⟨new, hnew, hplace⟩ := (attended_logs sink l earlier later item run).written
    exact ⟨new, hnew, fun e he => ⟨e.position, hplace e he, e.carries⟩⟩
  · intro run k
    obtain ⟨hs, hadds, -, hlogs⟩ := moment_logs c sink l limit run k
    obtain ⟨new, hnew, hplaces⟩ := hlogs.written
    refine ⟨hlogs.position, hs, new, hadds, hnew, fun e he => ?_⟩
    rcases hplaces e he with hbefore | ⟨item, hmem, hplace⟩
    · exact .inl (hbefore ▸ e.carries)
    · exact .inr ⟨item, hmem, e.position, hplace, e.carries⟩

end Loop

/-- A loop that was begun at a position of its own and that fails when its script is at an end: what the end of a
    partition leaves in the log, and what happens beside it, belongs to that end. A block within another one is left by
    a failure that the outer one takes up, and both bring back what they found. -/
theorem loop_brackets_position_of_script :
    let body : Position.Program :=
      .rescue (.within 1 none (some 7) (some 42) (.follow .clear (.raise Script.exhausted)))
        (.give (some "late") none (some 43))
    let program : Position.Program := .within 0 (some "events") (some 0) (some 9) body
    let outer : Position := ⟨"outer", 3, 9⟩
    let item : Item := .ended "events" 0 42
    let sink : Sink := .steady
    let run := { Run.fresh (Script.serving [[item]]) .empty with journal := { Journal.empty with position := outer } }
    let attended := run.attended sink .usual [.note Level.info "client" "Heartbeat" []] [.stop "signal"] item
    let held : Nat → Position := fun _ => .empty
    let passages := (program.exec ⟨outer, held, []⟩).2.passages
    program.OwnHolders ∧ passages.map (·.before) = [outer, ⟨"events", 0, 9⟩]
      ∧ passages.map (·.after) = passages.map (·.before)
      ∧ run.atPosition "events" 0 9 (during body (Function.update held 0 outer)) = during program held run
      ∧ attended.journal.entries.length = 3 ∧ (∀ e ∈ attended.journal.entries, e.BelongsTo item)
      ∧ (run.loop Script.client sink .usual none 2).1 = some (.error Script.exhausted)
      ∧ (run.loop Script.client sink .usual none 2).2.journal.position = outer := by
  intro body program outer item sink run attended held passages
  obtain ⟨hprograms, hblocks, hloop, hitems, -⟩ := loop_brackets_position Script.client sink .usual none
  have hown : program.OwnHolders := .of_nodup (by decide)
  refine ⟨hown, by decide, ?_, ?_, rfl, ?_, rfl, hloop run 2⟩
  · exact List.map_congr_left (hprograms program outer held hown)
  · exact hblocks 0 body (by decide) "events" 0 9 held run
  · obtain ⟨-, hbelongs⟩ := hitems run item
    obtain ⟨new, hnew, hall⟩ := hbelongs [.note Level.info "client" "Heartbeat" []] [.stop "signal"]
    have hentries : attended.journal.entries = new := hnew.trans (List.append_nil new)
    rw [hentries]
    exact hall

end Run

end TopicReader
