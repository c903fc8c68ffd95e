import TopicReader.Proofs.Metadata
import TopicReader.Proofs.Run.History

/-!
# `Proofs.Run.Calls` — what the calls of a run add to its history

A run calls its client in three places: before the first poll (start, metadata, opens), in the loop, and at the
end (closes, stop). This file says what each function of the first and the last place adds, as a `Run.Passes`
with the shape of its happenings; `Proofs.Run.Loop` does the same for the loop.

## Contents
- **The log.** `note_passes`, `noteFailure_passes`: a record of one of the run's own kinds adds nothing.
- **Stops.** `halt_eq`, `foldl_absorb_eq`: of the stops beside a call the first one counts.
- **One call.** `ask_passes`, `ask_called`.
- **Closing.** `closeEach_passes`, `closeStreams_passes`.
- **Opening.** `Opens` and `Breaks`, `openStreams_breaks`: all streams, or none; `Undoes` is what is left of the latter
  where it does not matter which stream it was.
- **Connecting.** `Connected` and `Thwarted`, `connect_connects`: everything before the first poll.
-/

namespace TopicReader

variable {σ : Type} (c : Client σ) (sink : Sink)

namespace Run

/-! ## The log -/

theorem logged_note (kind : Level → String → Bool) (level : Level) (origin message : String)
    (fields : Fields) (run : Run σ) :
    (run.note level origin message fields).logged kind
      = run.logged kind + (if kind level origin then 1 else 0) := by
  simp only [logged, note, Journal.write, List.countP_cons]

theorem logged_noteFailure (kind : Level → String → Bool) (level : Level) (origin message : String)
    (given : Fields) (detailed : Bool) (f : Failure) (run : Run σ) :
    (run.noteFailure level origin message given detailed f).logged kind
      = run.logged kind + (if kind level origin then 1 else 0) := by
  simp only [logged, noteFailure, Journal.writeFailure, Journal.write, List.countP_cons]

/-- A log record of one of the run's own kinds adds nothing to its history. -/
theorem note_passes {level : Level} {origin : String} (own : (level, origin) ∈ ownKinds)
    (message : String) (fields : Fields) (run : Run σ) :
    Passes c sink [] run (run.note level origin message fields) where
  events := rfl
  history := rfl
  sides := rfl
  logged kind hk := by rw [logged_note, hk _ own]; simp [notedIn]
  standing := rfl
  output := rfl
  received := rfl
  tracker := rfl
  closed := rfl

theorem noteFailure_passes {level : Level} {origin : String} (own : (level, origin) ∈ ownKinds)
    (message : String) (given : Fields) (detailed : Bool) (f : Failure) (run : Run σ) :
    Passes c sink [] run (run.noteFailure level origin message given detailed f) where
  events := rfl
  history := rfl
  sides := rfl
  logged kind hk := by rw [logged_noteFailure, hk _ own]; simp [notedIn]
  standing := rfl
  output := rfl
  received := rfl
  tracker := rfl
  closed := rfl

/-! ## Stops -/

/-- A stop changes the standing and the log, and the standing as the first reason demands. -/
theorem halt_eq (reason : String) (run : Run σ) :
    run.halt reason
      = { run with standing := run.standing.stop reason, journal := (run.halt reason).journal } := by
  cases run with
  | mk client output events standing => cases standing <;> rfl

/-- Observing an end moves the tracker, and stops the run if that says so. -/
theorem observe_eq (topic : String) (p o : Int) (run : Run σ) :
    (run.observe topic p o).2 = { run with
      tracker := (run.tracker.observe p).2
      standing := if (run.tracker.observe p).1.isOver then run.standing.stop "eof" else run.standing
      journal := (run.observe topic p o).2.journal } := by
  unfold observe
  by_cases hover : (run.tracker.observe p).1.isOver = true
  · simp only [hover, if_true]
    rw [halt_eq]
  · simp only [hover, if_false, Bool.false_eq_true]

theorem logged_halt {kind : Level → String → Bool} (hk : Spares kind) (reason : String) (run : Run σ) :
    (run.halt reason).logged kind = run.logged kind := by
  have own : kind Level.debug stopOrigin = false := hk (Level.debug, stopOrigin) (by simp [ownKinds])
  unfold halt
  split
  · rw [logged_note, own]; rfl
  · rfl

theorem absorb_eq (i : Incident) (run : Run σ) :
    run.absorb i = { run with
      standing := run.standing.after (Happening.reasonOf i), journal := (run.absorb i).journal } := by
  cases i with
  | stop reason => exact halt_eq reason run
  | note level origin message fields => rfl

/-- Of the incidents beside a call, the first stop counts. -/
theorem foldl_absorb_eq (is : List Incident) (run : Run σ) :
    is.foldl absorb run = { run with
      standing := run.standing.after (is.filterMap Happening.reasonOf).head?,
      journal := (is.foldl absorb run).journal } := by
  induction is generalizing run with
  | nil => rfl
  | cons i rest ih =>
    rw [List.foldl_cons, ih, absorb_eq i run]
    have hor : (Happening.reasonOf i).or (rest.filterMap Happening.reasonOf).head?
        = ((i :: rest).filterMap Happening.reasonOf).head? := by
      cases hi : Happening.reasonOf i <;> simp [hi]
    simp only [Standing.after_after, hor]

theorem logged_foldl_absorb {kind : Level → String → Bool} (hk : Spares kind) (is : List Incident)
    (run : Run σ) :
    (is.foldl absorb run).logged kind = run.logged kind + is.countP (Happening.isNoteOf kind) := by
  induction is generalizing run with
  | nil => rfl
  | cons i rest ih =>
    rw [List.foldl_cons, ih, List.countP_cons]
    cases i with
    | stop reason => simp [absorb, logged_halt hk, Happening.isNoteOf]
    | note level origin message fields =>
      rw [absorb, logged_note, Nat.add_right_comm, Nat.add_assoc]
      rfl

/-! ## One call -/

/-- **A call adds itself with its reply**; only the stops beside it move the run. -/
theorem ask_passes {α : Type} (call : Call) {f : σ → Reply α × σ} {g : α → Yield}
    (hf : ∀ s, c.respond call s = ((f s).1.map g, (f s).2)) (run : Run σ) :
    Passes c sink [.called call ((f run.client).1.map g)] run (run.ask call f).2 := by
  have heq : (run.ask call f).2
      = (f run.client).1.incidents.foldl absorb
          { run with client := (f run.client).2, events := .call call :: run.events } := rfl
  have hfold := foldl_absorb_eq (f run.client).1.incidents
    { run with client := (f run.client).2, events := .call call :: run.events }
  rw [← heq] at hfold
  have hmeet : run.sides.meet c sink (.call call)
      = (.called call ((f run.client).1.map g), { run.sides with client := (f run.client).2 }) := by
    simp only [Sides.meet, sides, hf]
  refine ⟨⟨?_, ?_, ?_, ?_⟩, ?_, ?_, ?_, ?_, ?_⟩
  · rw [hfold]; rfl
  · simp only [List.map_cons, List.map_nil, Happening.event, Sides.history, hmeet]
  · simp only [List.map_cons, List.map_nil, Happening.event, Sides.after, hmeet]
    rw [hfold]; rfl
  · intro kind hk
    rw [heq, logged_foldl_absorb hk]
    simp [notedIn, Happening.noted, Reply.map, logged]
  · rw [hfold]; simp [stopIn, Happening.stops, Reply.map]
  · rw [hfold]
  · rw [hfold]
  · rw [hfold]
  · rw [hfold]

theorem ask_streams {α : Type} (call : Call) (f : σ → Reply α × σ) (run : Run σ) :
    (run.ask call f).2.streams = run.streams := by
  show ((f run.client).1.incidents.foldl absorb _).streams = run.streams
  rw [foldl_absorb_eq]

/-- What is known once a call has returned: it is in the history with the result that the run goes on with. -/
theorem ask_called {α : Type} {call : Call} {f : σ → Reply α × σ} {g : α → Yield}
    (hf : ∀ s, c.respond call s = ((f s).1.map g, (f s).2)) {run next : Run σ} {result : Except Failure α}
    (h : run.ask call f = (result, next)) :
    ∃ is, Passes c sink [.called call ⟨is, result.map g⟩] run next ∧ next.streams = run.streams := by
  have hpass := ask_passes c sink call hf run
  have hstreams := ask_streams call f run
  have hresult : (f run.client).1.result = result := congrArg Prod.fst h
  rw [h] at hpass hstreams
  refine ⟨(f run.client).1.incidents, ?_, hstreams⟩
  rw [← hresult]
  exact hpass

/-! ## Closing -/

theorem closeOne_passes (topic : String) (p : Int) (run : Run σ) :
    ∃ reply, Passes c sink [.called (.closeStream topic p) reply] run (run.closeOne c topic p)
      ∧ (run.closeOne c topic p).streams = run.streams := by
  unfold closeOne
  split
  · rename_i heq
    obtain ⟨is, hcall, hstreams⟩ := ask_called c sink (g := fun _ => .nothing) (fun _ => rfl) heq
    exact ⟨_, hcall, hstreams⟩
  · rename_i f _ heq
    obtain ⟨is, hcall, hstreams⟩ := ask_called c sink (g := fun _ => .nothing) (fun _ => rfl) heq
    exact ⟨_, hcall.quietly (noteFailure_passes c sink (by simp [ownKinds]) _ _ _ f _), hstreams⟩

/-- Streams are closed one after the other, and each close is asked for whatever came of those before it. -/
theorem closeEach_passes (topic : String) (ps : List Int) (run : Run σ) :
    ∃ hs, Passes c sink hs run (closeEach c topic ps run) ∧ AllAt .closing hs
      ∧ closedIn hs = ps.map (topic, ·) ∧ (closeEach c topic ps run).streams = run.streams := by
  induction ps generalizing run with
  | nil => exact ⟨[], .refl c sink run, .nil, rfl, rfl⟩
  | cons p rest ih =>
    obtain ⟨reply, hone, hkeep⟩ := closeOne_passes c sink topic p run
    obtain ⟨hs, hrest, hstage, hclosed, hstreams⟩ := ih (run.closeOne c topic p)
    refine ⟨_, hone.trans hrest, ?_, ?_, hstreams.trans hkeep⟩
    · exact AllAt.append (.one rfl) hstage
    · rw [closedIn_append, hclosed]; rfl

/-- Every open stream is closed, the latest first, and then none is open. -/
theorem closeStreams_passes (topic : String) (run : Run σ) :
    ∃ hs, Passes c sink hs run (run.closeStreams c topic) ∧ AllAt .closing hs
      ∧ closedIn hs = run.streams.map (topic, ·) ∧ (run.closeStreams c topic).streams = [] := by
  obtain ⟨hs, hpass, hstage, hclosed, hstreams⟩ :=
    closeEach_passes c sink topic run.streams { run with streams := [] }
  exact ⟨hs, ⟨⟨hpass.events, hpass.history, hpass.sides, hpass.logged⟩, hpass.standing, hpass.output,
    hpass.received, hpass.tracker, hpass.closed⟩, hstage, hclosed, hstreams⟩

/-! ## Opening -/

/-- A record is kept of an open stream. -/
theorem noteOpened_passes (topic : String) (p : Int) (start : Offset) (run : Run σ) :
    Passes c sink [] run (run.noteOpened topic p start) := by
  have hnote := note_passes c sink (show (Level.debug, streamsOrigin) ∈ ownKinds by simp [ownKinds])
    ("Opened stream for " ++ Problem.place topic (some p) ++ " at " ++ start.text)
    [("topic", .text topic), ("partition", .int p), ("offset_directive", .offset start)]
    { run with streams := p :: run.streams }
  exact ⟨⟨hnote.events, hnote.history, hnote.sides, hnote.logged⟩, hnote.standing, hnote.output,
    hnote.received, hnote.tracker, hnote.closed⟩

/-- **Every stream is open**: each was asked for once, in order, and no call failed. -/
structure Opens (topic : String) (start : Offset) (ps : List Int) (hs : List Happening) : Prop where
  events : hs.map Happening.event = ps.map fun p => .call (.openStream topic p start)
  fine : ∀ h ∈ hs, h.failed = false
  opens : openedIn hs = ps.map (topic, ·)

/-- **One stream cannot be opened**, and then all open streams are closed again, the latest first: those that were
    opened now and those that were open before. -/
structure Undoes (topic : String) (start : Offset) (before : List Int) (hs gs : List Happening) : Prop where
  events : ∀ h ∈ hs, ∃ p, h.event = .call (.openStream topic p start)
  refused : ∃ h ∈ hs, h.failed = true
  closing : AllAt .closing gs
  undone : closedIn gs = (openedIn hs).reverse ++ before.map (topic, ·)

theorem Opens.nil (topic : String) (start : Offset) : Opens topic start [] [] :=
  ⟨rfl, List.forall_mem_nil _, rfl⟩

/-- A stream that is opened in front of others. -/
theorem Opens.cons {topic : String} {start : Offset} {ps : List Int} {hs : List Happening}
    (h : Opens topic start ps hs) (p : Int) (is : List Incident) :
    Opens topic start (p :: ps) (.called (.openStream topic p start) ⟨is, .ok .nothing⟩ :: hs) where
  events := congrArg (Event.call (.openStream topic p start) :: ·) h.events
  fine := List.forall_mem_cons.mpr ⟨rfl, h.fine⟩
  opens := congrArg ((topic, p) :: ·) h.opens

theorem Opens.event {topic : String} {start : Offset} {ps : List Int} {hs : List Happening}
    (h : Opens topic start ps hs) : ∀ x ∈ hs, ∃ p, x.event = .call (.openStream topic p start) := by
  intro x hx
  have hmem : x.event ∈ hs.map Happening.event := List.mem_map_of_mem hx
  rw [h.events] at hmem
  obtain ⟨p, -, hp⟩ := List.mem_map.mp hmem
  exact ⟨p, hp.symm⟩

/-- Opens belong to the setup, and bring no metadata. -/
theorem setup_of_opens {topic : String} {start : Offset} {hs : List Happening}
    (h : ∀ x ∈ hs, ∃ p, x.event = .call (.openStream topic p start)) :
    AllAt .setup hs ∧ metadataIn hs = [] := by
  refine ⟨fun x hx => ?_, List.filterMap_eq_nil_iff.mpr fun x hx => ?_⟩
  · obtain ⟨p, hp⟩ := h x hx
    rw [hp]; rfl
  · obtain ⟨p, hp⟩ := h x hx
    match x with
    | .called (.openStream ..) _ => rfl
    | .called .start _ | .called .stop _ | .called (.fetch ..) _ | .called (.closeStream ..) _
    | .called .poll _ | .wrote .. | .flushed _ => cases hp

/-- **Opening breaks off** at a partition that cannot be opened, when the ones in front of it (`done`) were opened: all
    streams that are open by then are closed again, the latest first, those from `before` included. -/
structure Breaks (topic : String) (start : Offset) (before done : List Int) (hs gs : List Happening) : Prop where
  opens : Opens topic start done hs
  closing : AllAt .closing gs
  closes : closedIn gs = (done.reverse ++ before).map (topic, ·)

/-- What breaks off is undone. -/
theorem Breaks.undoes {topic : String} {start : Offset} {before done : List Int} {hs gs : List Happening}
    (h : Breaks topic start before done hs gs) (p : Int) (is : List Incident) (f : Failure) :
    Undoes topic start before (hs ++ [.called (.openStream topic p start) ⟨is, .error f⟩]) gs where
  events := List.forall_mem_append.mpr ⟨h.opens.event, List.forall_mem_singleton.mpr ⟨p, rfl⟩⟩
  refused := ⟨_, List.mem_append_right _ (List.mem_singleton_self _), rfl⟩
  closing := h.closing
  undone := by
    have hnone : openedIn [.called (.openStream topic p start) ⟨is, .error f⟩] = [] := rfl
    rw [h.closes, openedIn_append, h.opens.opens, hnone, List.append_nil, List.map_append, List.map_reverse]

/-- **Opening is all or nothing.** -/
theorem openEach_breaks (topic : String) (start : Offset) (ps : List Int) (run : Run σ) :
    (∃ hs, (openEach c topic start ps run).1 = .ok ()
      ∧ Passes c sink hs run (openEach c topic start ps run).2 ∧ Opens topic start ps hs
      ∧ (openEach c topic start ps run).2.streams = ps.reverse ++ run.streams)
    ∨ ∃ done p rest f hs is gs, ps = done ++ p :: rest
      ∧ (openEach c topic start ps run).1 = .error (openFailure topic p start f)
      ∧ Passes c sink (hs ++ .called (.openStream topic p start) ⟨is, .error f⟩ :: gs) run
        (openEach c topic start ps run).2
      ∧ Breaks topic start run.streams done hs gs ∧ (openEach c topic start ps run).2.streams = [] := by
  induction ps generalizing run with
  | nil => exact .inl ⟨[], rfl, .refl c sink run, .nil topic start, rfl⟩
  | cons p rest ih =>
    cases hopen : run.openStream c topic p start with
    | mk result next =>
      obtain ⟨is, hcall, hkeep⟩ := ask_called c sink (g := fun _ => .nothing) (fun _ => rfl) hopen
      cases result with
      | error f =>
        have heq : openEach c topic start (p :: rest) run
            = (.error (openFailure topic p start f), next.closeStreams c topic) := by
          simp only [openEach, hopen]
        -- The run's own list holds all streams that are open, those from before this stretch included.
        obtain ⟨gs, hclose, hstage, hclosed, hnone⟩ := closeStreams_passes c sink topic next
        rw [hkeep] at hclosed
        rw [heq]
        have hbreaks : Breaks topic start run.streams [] [] gs := ⟨.nil topic start, hstage, hclosed⟩
        exact .inr ⟨[], p, rest, f, [], is, gs, rfl, rfl, hcall.trans hclose, hbreaks, hnone⟩
      | ok u =>
        have heq : openEach c topic start (p :: rest) run
            = openEach c topic start rest (next.noteOpened topic p start) := by
          simp only [openEach, hopen]
        have hhead := hcall.quietly (noteOpened_passes c sink topic p start next)
        have hstart : (next.noteOpened topic p start).streams = p :: run.streams := by
          rw [← hkeep]; rfl
        rw [heq]
        rcases ih (next.noteOpened topic p start) with
          ⟨hs, hok, hpass, hopens, hss⟩ | ⟨done, q, after, f, hs, js, gs, rfl, herr, hpass, hbreaks, hss⟩
        · refine .inl ⟨_, hok, hhead.trans hpass, hopens.cons p is, ?_⟩
          rw [hss, hstart]; simp
        · refine .inr ⟨p :: done, q, after, f, _ :: hs, js, gs, rfl, herr, hhead.trans hpass, ?_, hss⟩
          refine ⟨hbreaks.opens.cons p is, hbreaks.closing, ?_⟩
          rw [hbreaks.closes, hstart]; simp

/-- The streams of what is selected are opened, or opening breaks off at one of them. -/
theorem openStreams_breaks {topic : String} {partitions ps : List Int} {target : Option Int}
    (hps : selected topic partitions target = .ok ps) (start : Offset) (run : Run σ) :
    (∃ hs next, run.openStreams c topic partitions start target = (.ok (run.opened ++ ps), next)
      ∧ Passes c sink hs run next ∧ Opens topic start ps hs ∧ next.streams = ps.reverse ++ run.streams)
    ∨ ∃ done p rest f hs is gs next, ps = done ++ p :: rest
      ∧ run.openStreams c topic partitions start target = (.error (openFailure topic p start f), next)
      ∧ Passes c sink (hs ++ .called (.openStream topic p start) ⟨is, .error f⟩ :: gs) run next
      ∧ Breaks topic start run.streams done hs gs ∧ next.streams = [] := by
  have hopening := openEach_breaks c sink topic start ps run
  generalize hmade : openEach c topic start ps run = made at hopening
  obtain ⟨result, next⟩ := made
  unfold openStreams
  simp only [hps, hmade]
  rcases hopening with
    ⟨hs, hok, hpass, hopens, hstreams⟩ | ⟨done, p, rest, f, hs, is, gs, hparts, herr, hpass, hbreaks, hnone⟩
  · cases hok
    have hopened : next.opened = run.opened ++ ps := by
      rw [opened, hstreams, List.reverse_append, List.reverse_reverse]
      rfl
    have hown : (Level.info, streamsOrigin) ∈ ownKinds := by simp [ownKinds]
    refine .inl ⟨hs, next.noteConsuming topic, ?_, ?_, hopens, hstreams⟩
    · show (Except.ok next.opened, next.noteConsuming topic) = _
      rw [hopened]
    · exact hpass.quietly (note_passes c sink hown _ _ next)
  · cases herr
    exact .inr ⟨done, p, rest, f, hs, is, gs, next, hparts, rfl, hpass, hbreaks, hnone⟩

/-! ## Connecting -/

/-- **The streams that a run is to open**, by the metadata in its history. -/
def Chosen (s : Settings) (hs : List Happening) (opened : List Int) : Prop :=
  ∃ m ids, metadataIn hs = [m] ∧ m.partitionsFor s.topic s.partition = .ok ids
    ∧ selected s.topic ids s.partition = .ok opened

/-- Where one partition is asked for, no other one is opened. -/
theorem Chosen.alone {s : Settings} {hs : List Happening} {opened : List Int} (h : Chosen s hs opened)
    (one : s.partition.isSome = true) : opened.length ≤ 1 := by
  obtain ⟨p, hp⟩ := Option.isSome_iff_exists.mp one
  obtain ⟨m, ids, -, -, hselected⟩ := h
  rw [hp, selected] at hselected
  split at hselected
  · cases hselected
    exact Nat.le_refl 1
  · cases hselected

/-- What stands in the way of opening streams: a call that failed, a time limit that is no number, or metadata
    that is not healthy. -/
def Hindered (s : Settings) (hs : List Happening) : Prop :=
  (∃ h ∈ hs, h.failed = true)
    ∨ (∃ f, Value.quotient s.connection.metadataTimeout 1000 = .error f)
    ∨ ∃ m ∈ metadataIn hs, ∃ f, m.partitionsFor s.topic s.partition = .error f

/-- A partition that was found in the metadata can be selected. -/
theorem selected_ok {topic : String} {m : TopicMetadata} {target : Option Int} {ids : List Int}
    (h : m.partitionsFor topic target = .ok ids) : ∃ ps, selected topic ids target = .ok ps := by
  cases target with
  | none => exact ⟨ids, rfl⟩
  | some p =>
    have hthere : p ∈ ids := (TopicMetadata.found_of_partitionsFor h).2 p rfl
    exact ⟨[p], if_pos (List.contains_iff_mem.mpr hthere)⟩

/-- **All streams are open.** The client was started, the metadata was asked for, and each stream was opened once,
    in order; nothing failed on the way. -/
structure Connected (s : Settings) (start : Offset) (hs : List Happening) (opened : List Int) : Prop where
  events : ∃ seconds, Value.quotient s.connection.metadataTimeout 1000 = .ok seconds
    ∧ hs.map Happening.event = .call .start :: .call (.fetch s.topic seconds) ::
      opened.map fun p => .call (.openStream s.topic p start)
  fine : ∀ h ∈ hs, h.failed = false
  opens : openedIn hs = opened.map (s.topic, ·)
  chosen : Chosen s hs opened

namespace Connected

variable {s : Settings} {start : Offset} {hs : List Happening} {opened : List Int}

theorem setup (h : Connected s start hs opened) : AllAt .setup hs := by
  obtain ⟨seconds, -, hevents⟩ := h.events
  intro x hx
  have hmem : x.event ∈ hs.map Happening.event := List.mem_map_of_mem hx
  rw [hevents, List.mem_cons, List.mem_cons, List.mem_map] at hmem
  rcases hmem with heq | heq | ⟨p, -, heq⟩
  · rw [heq]; rfl
  · rw [heq]; rfl
  · rw [← heq]; rfl

theorem first (h : Connected s start hs opened) : ∃ reply rest, hs = .called .start reply :: rest := by
  obtain ⟨seconds, -, hevents⟩ := h.events
  cases hs with
  | nil => cases hevents
  | cons x rest =>
    have hx : x.event = .call .start := (List.cons.inj hevents).1
    match x with
    | .called .start reply => exact ⟨reply, rest, rfl⟩
    | .called .stop _ | .called (.fetch ..) _ | .called (.openStream ..) _ | .called (.closeStream ..) _
    | .called .poll _ | .wrote .. | .flushed _ => cases hx

end Connected

/-- **No stream is open.** Something stood in the way, and what was opened before (`hs`) is closed again
    (`gs`); streams are closed at this point only because one could not be opened. -/
structure Thwarted (s : Settings) (hs gs : List Happening) : Prop where
  first : ∃ reply rest, hs = .called .start reply :: rest
  setup : AllAt .setup hs
  closing : AllAt .closing gs
  hindered : Hindered s hs
  undone : closedIn gs = (openedIn hs).reverse
  reason : gs = [] ∨ ∃ h ∈ hs, h.refusesStream = true

theorem Thwarted.of_failed {s : Settings} {hs : List Happening} {reply : Reply Yield}
    {rest : List Happening} (first : hs = .called .start reply :: rest) (setup : AllAt .setup hs)
    (hindered : Hindered s hs) (none : openedIn hs = []) : Thwarted s hs [] where
  first := ⟨reply, rest, first⟩
  setup := setup
  closing := .nil
  hindered := hindered
  undone := by rw [none]; rfl
  reason := .inl rfl

/-- The streams of a topic are opened after its metadata has come. -/
theorem openStreams_opens (s : Settings) (start : Offset) (ids : List Int) (m : TopicMetadata)
    (hm : m.partitionsFor s.topic s.partition = .ok ids) (run : Run σ) (hnone : run.streams = []) :
    (∃ opened hs, (run.openStreams c s.topic ids start s.partition).1 = .ok opened
      ∧ selected s.topic ids s.partition = .ok opened
      ∧ Passes c sink hs run (run.openStreams c s.topic ids start s.partition).2
      ∧ Opens s.topic start opened hs
      ∧ (run.openStreams c s.topic ids start s.partition).2.streams = opened.reverse)
    ∨ ∃ f hs gs, (run.openStreams c s.topic ids start s.partition).1 = .error f
      ∧ Passes c sink (hs ++ gs) run (run.openStreams c s.topic ids start s.partition).2
      ∧ Undoes s.topic start [] hs gs
      ∧ (run.openStreams c s.topic ids start s.partition).2.streams = [] := by
  obtain ⟨ps, hps⟩ := selected_ok hm
  rcases openStreams_breaks c sink hps start run with
    ⟨hs, next, hmade, hpass, hopens, hstreams⟩
      | ⟨done, p, rest, f, hs, is, gs, next, -, hmade, hpass, hbreaks, hclosed⟩
  · rw [hmade]
    rw [hnone, List.append_nil] at hstreams
    have hall : run.opened ++ ps = ps := by rw [opened, hnone]; rfl
    exact .inl ⟨ps, hs, congrArg Except.ok hall, hps, hpass, hopens, hstreams⟩
  · rw [hmade]
    rw [hnone] at hbreaks
    refine .inr ⟨_, hs ++ [.called (.openStream s.topic p start) ⟨is, .error f⟩], gs, rfl, ?_, hbreaks.undoes p is f,
      hclosed⟩
    rwa [List.append_assoc]

/-- The partitions of a topic are asked for once. If there are none to go on with, the query failed, or the metadata
    that it brought is not healthy. -/
theorem resolve_passes (s : Settings) (seconds : Double) (run : Run σ) :
    ∃ reply, Passes c sink [.called (.fetch s.topic seconds) reply] run
        (run.resolve c s.topic seconds s.partition).2
      ∧ (run.resolve c s.topic seconds s.partition).2.streams = run.streams
      ∧ match (run.resolve c s.topic seconds s.partition).1 with
        | .ok ids => ∃ m, reply.result = .ok (.metadata m) ∧ m.partitionsFor s.topic s.partition = .ok ids
        | .error _ => (Happening.called (.fetch s.topic seconds) reply).failed = true
          ∨ ∃ m, reply.result = .ok (.metadata m) ∧ ∃ f, m.partitionsFor s.topic s.partition = .error f := by
  unfold resolve
  cases hfetch : run.fetch c s.topic seconds with
  | mk result next =>
  obtain ⟨is, hcall, hkeep⟩ := ask_called c sink (g := .metadata) (fun _ => rfl) hfetch
  refine ⟨⟨is, result.map .metadata⟩, ?_⟩
  cases result with
  | error f => exact ⟨hcall, hkeep, .inl rfl⟩
  | ok m =>
    dsimp only
    cases hm : m.partitionsFor s.topic s.partition with
    | error f => exact ⟨hcall, hkeep, .inr ⟨m, rfl, f, hm⟩⟩
    | ok ids =>
      exact ⟨hcall.quietly (note_passes c sink (by simp [ownKinds]) _ _ next), hkeep, m, rfl, hm⟩

/-- **Before the first poll** a run has opened every stream it is to open, or none is open any more. -/
theorem connect_connects (s : Settings) (start : Offset) (run : Run σ) (hnone : run.streams = []) :
    (∃ opened hs, (run.connect c s start).1 = .ok opened ∧ Passes c sink hs run (run.connect c s start).2
      ∧ Connected s start hs opened ∧ (run.connect c s start).2.streams = opened.reverse)
    ∨ ∃ f hs gs, (run.connect c s start).1 = .error f
      ∧ Passes c sink (hs ++ gs) run (run.connect c s start).2 ∧ Thwarted s hs gs
      ∧ (run.connect c s start).2.streams = [] := by
  -- Three things come before the first stream: the start, the time limit of the query, and the query.
  unfold connect
  cases hstart : run.start c with
  | mk result r₁ =>
  obtain ⟨is, hcall, hk₁⟩ := ask_called c sink (g := fun _ => .nothing) (fun _ => rfl) hstart
  rw [hnone] at hk₁
  cases result with
  | error f =>
    refine .inr ⟨f, _, [], rfl, hcall.append_nil, .of_failed rfl (.one rfl) ?_ rfl, hk₁⟩
    exact .inl ⟨_, List.mem_singleton_self _, rfl⟩
  | ok u =>
  cases hq : Value.quotient s.connection.metadataTimeout 1000 with
  | error f =>
    refine .inr ⟨f, _, [], rfl, hcall.append_nil, .of_failed rfl (.one rfl) ?_ rfl, hk₁⟩
    exact .inr (.inl ⟨f, hq⟩)
  | ok seconds =>
  dsimp only
  obtain ⟨reply, hfetched, hk₂, hresolved⟩ := resolve_passes c sink s seconds r₁
  rw [hk₁] at hk₂
  have hboth := hcall.trans hfetched
  have hsetup : ∀ reply', AllAt .setup ([.called .start reply'] ++ [.called (.fetch s.topic seconds) reply]) :=
    fun _ => .append (.one rfl) (.one rfl)
  generalize r₁.resolve c s.topic seconds s.partition = outcome at hboth hk₂ hresolved ⊢
  obtain ⟨result, r₂⟩ := outcome
  obtain ⟨js, answer⟩ := reply
  cases result with
  | error f =>
    refine .inr ⟨f, _, [], rfl, hboth.append_nil, .of_failed rfl (hsetup _) ?_ ?_, hk₂⟩
    · rcases hresolved with hbad | ⟨m, rfl, hbad⟩
      · exact .inl ⟨_, List.mem_append_right _ (List.mem_singleton_self _), hbad⟩
      · exact .inr (.inr ⟨m, List.mem_singleton_self _, hbad⟩)
    · rcases hresolved with hbad | ⟨m, rfl, hbad⟩ <;> rfl
  | ok ids =>
  obtain ⟨m, rfl, hm⟩ := hresolved
  rcases openStreams_opens c sink s start ids m hm r₂ hk₂ with
    ⟨opened, hs, hok, hsel, hpass, hopens, hss⟩ | ⟨f, hs, gs, herr, hpass, hundoes, hss⟩
  · obtain ⟨-, hmeta⟩ := setup_of_opens hopens.event
    refine .inl ⟨opened, _, hok, hboth.trans hpass, ⟨⟨seconds, hq, ?_⟩, ?_, hopens.opens, ?_⟩, hss⟩
    · rw [List.map_append, hopens.events]; rfl
    · exact List.forall_mem_append.mpr ⟨by simp [Happening.failed, Except.map, Except.toOption], hopens.fine⟩
    · exact ⟨m, ids, by rw [metadataIn_append, hmeta]; rfl, hm, hsel⟩
  · obtain ⟨hset, -⟩ := setup_of_opens hundoes.events
    obtain ⟨h, hmem, hbad⟩ := hundoes.refused
    obtain ⟨p, hp⟩ := hundoes.events h hmem
    refine .inr ⟨f, _, gs, herr, List.append_assoc _ hs gs ▸ hboth.trans hpass,
      ⟨⟨_, _, rfl⟩, (hsetup _).append hset, hundoes.closing, ?_, ?_, ?_⟩, hss⟩
    · exact .inl ⟨h, List.mem_cons_of_mem _ (List.mem_cons_of_mem _ hmem), hbad⟩
    · rw [hundoes.undone, List.map_nil, List.append_nil]; rfl
    · refine .inr ⟨h, List.mem_cons_of_mem _ (List.mem_cons_of_mem _ hmem), ?_⟩
      rw [Happening.refusesStream, hp]; exact hbad

end Run

end TopicReader
