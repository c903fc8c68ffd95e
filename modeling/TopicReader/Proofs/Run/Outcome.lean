import TopicReader.Proofs.Run.Release
import TopicReader.Proofs.Settings.Refusing
import TopicReader.Proofs.Settings.Typed

/-!
# `Proofs.Run.Outcome` — how a run ends

The ending of a run, the reason for which it was stopped and what its log says come from several places: a run
may be refused, it may fail with problems of a known kind or with anything else, what fails while it is released
does not count, and someone may have stopped it before. Here all of them are told from the history of the run. Only
one way leads out of a run: a refusal that cannot be worded.

## Contents
- **Before the first call.** `starting_error`: what is refused is refused for a known problem, or cannot be worded.
- **What makes an ending fatal.** `Impeded`.
- **The law.** `Concluded`, and `Goes.concluded` for a run that goes through its parts.
- **Whole runs.** `consume_concludes`, and two runs that end in a way of their own.
-/

namespace TopicReader

variable {σ α β : Type}

/-! ## Before the first call -/

/-- A text that names no start is a problem with the settings. -/
theorem Offset.resolve_not_escapes (spec : String) : ¬ Escapes (resolve spec) := by
  rintro ⟨f, hf, hconfig⟩
  unfold resolve at hf
  split at hf
  · cases hf
  · cases hf
    cases hconfig

/-- **What comes before the first call escapes** exactly if the refusal of the settings cannot be worded. -/
theorem starting_escapes_iff (s : Settings) : Escapes (starting s) ↔ s.Unwritable := by
  unfold starting
  rw [Escapes.check_iff, s.validate_escapes_iff]
  exact or_iff_left fun h => Offset.resolve_not_escapes _ h.2

/-- **Settings that cannot be used** are refused for a known problem, or else the wording of that is what fails. -/
theorem starting_error {s : Settings} {f : Failure} (h : starting s = .error f) :
    (s.Unwritable ∧ f = Value.tooLong) ∨ (¬ s.Unwritable ∧ f.isClassified = true) := by
  rw [← s.validate_escapes_iff]
  rcases bind_eq_error_iff.mp h with hf | ⟨_, hvalid, hf⟩
  · by_cases hescapes : Escapes s.validate
    · exact .inl ⟨hescapes, s.validate_refusing.eq_tooLong hf hescapes⟩
    · exact .inr ⟨hescapes, s.validate_refusing.isClassified hf hescapes⟩
  · refine .inr ⟨by rw [hvalid]; exact Escapes.not_ok _, ?_⟩
    unfold Offset.resolve at hf
    split at hf
    · cases hf
    · cases hf
      rfl

/-! ## What makes an ending fatal -/

/-- The partitions whose streams were opened. -/
def partitionsIn (hs : List Happening) : List Int := (openedIn hs).map (·.2)

/-- How reading ends in a run, by the streams that it opened. -/
def finishIn (s : Settings) (sink : Sink) (hs : List Happening) (cues : List Cue) : Option Finish :=
  (s.rule sink (partitionsIn hs)).finish? [] cues

/-- **A run is impeded** if a call or a use of the sink fails before the streams are closed, if its time limit is
    no number of seconds, if the metadata is not healthy, or if it meets, while it goes on, an item with which
    reading breaks off. Closing streams and stopping the client may fail. -/
def Impeded (s : Settings) (sink : Sink) (st : Standing) (hs : List Happening) : Prop :=
  (∃ h ∈ hs, h.failed = true ∧ h.event.stage.rank < Stage.closing.rank)
    ∨ (∃ f, Value.quotient s.connection.metadataTimeout 1000 = .error f)
    ∨ (∃ m ∈ metadataIn hs, ∃ f, m.partitionsFor s.topic s.partition = .error f)
    ∨ (st = .running ∧ ∃ f, finishIn s sink hs (cuesIn hs) = some (.broken f))

/-- What a run did before its release. Where a stream cannot be opened, closing the others is no part of the
    release but of the opening. -/
def untilRelease (hs : List Happening) : List Happening :=
  if hs.any Happening.refusesStream then hs.dropLast
  else hs.takeWhile fun h => h.event.stage.rank < Stage.closing.rank

/-! ## The law -/

/-- Does a log record tell of an error? -/
def isError (level : Level) (_ : String) : Bool := level == Level.error

/-- Is a log record a summary of a run? -/
def isSummary (level : Level) (origin : String) : Bool := level == Level.info && origin == Run.runOrigin

/-- **How a run concludes** that ends. It is fatal exactly if it is impeded. If it is not, then it was stopped,
    for the first reason there was, and the sink was last used for a flush that it took. If it is, then it was
    stopped for the first reason before its release, or else for the error. The log has one error of a fatal run
    and none of any other, besides what the client writes; and one summary, which is its latest record. -/
structure Concluded (s : Settings) (sink : Sink) (k : Clock) (st : Standing) (hs : List Happening)
    (ending : Ending) (run last : Run σ) : Prop where
  fatal_iff : ending = .fatal ↔ Impeded s sink st hs
  fine : ending = .fine →
    last.standing = st.after ((finishIn s sink hs (cuesIn hs)).bind Finish.reason?)
      ∧ last.standing.isRunning = false ∧ (hs.filter Happening.isUse).getLast? = some (.flushed true)
  fatal : ending = .fatal → last.standing
    = (st.after ((finishIn s sink hs (cuesIn (untilRelease hs))).bind Finish.reason?)).stop "error"
  errors : last.logged isError
    = run.logged isError + notedIn isError hs + (if ending = .fatal then 1 else 0)
  summaries : last.logged isSummary = run.logged isSummary + notedIn isSummary hs + 1
  latest : ∃ e, last.journal.entries.head? = some e ∧ e.level = Level.info ∧ e.origin = Run.runOrigin
    ∧ e.message = Summary.ofRun last.received k.elapsed last.standing.reason?
    ∧ e.fields = [("messages_consumed", .int last.received),
        ("reason", Problem.optText last.standing.reason?)]

/-! ## Parts -/

/-- A part that is no transfer. -/
theorem AllAt.ne_transfer {stage : Stage} {hs : List Happening} (h : AllAt stage hs) (hne : stage ≠ .transfer) :
    ∀ x ∈ hs, x.event.stage ≠ .transfer := fun x hx => by rw [h x hx]; exact hne

/-- How reading ends in a run of three parts of which the second one transfers. -/
theorem Rule.finish?_parts (rule : Rule) {ps ls rs : List Happening}
    (before : ∀ x ∈ ps, x.event.stage ≠ .transfer) (after : ∀ x ∈ rs, x.event.stage ≠ .transfer) :
    rule.finish? [] (cuesIn (ps ++ ls ++ rs))
      = ((stopIn ps).map .stopped).or ((rule.finish? [] (cuesIn ls)).or ((stopIn rs).map .stopped)) := by
  have hlast : ∀ seen, rule.finish? seen (cuesIn rs) = (stopIn rs).map .stopped := by
    intro seen
    rw [← List.append_nil (cuesIn rs), finish?_calls seen after]
    exact Option.or_none
  rw [List.append_assoc, cuesIn_append, cuesIn_append, finish?_calls [] before, finish?_append, hlast]

/-- The reason for which reading ends, if it does not break off. -/
theorem bind_reason?_or (why : Option String) (rest : Option Finish) :
    ((why.map Finish.stopped).or rest).bind Finish.reason? = why.or (rest.bind Finish.reason?) := by
  cases why <;> rfl

namespace Run

variable {c : Client σ} {s : Settings} {start : Offset} {sink : Sink} {fuel : Nat} {st last : Standing}
  {output : Output}

/-- A release comes after everything that counts for the ending. -/
theorem release_rank {gs : List Happening} (closing : AllAt .closing gs) (reply : Reply Yield) :
    ∀ x ∈ gs ++ [.called .stop reply], Stage.closing.rank ≤ x.event.stage.rank := by
  refine List.forall_mem_append.mpr ⟨fun x hx => by rw [closing x hx], fun x hx => ?_⟩
  rw [List.mem_singleton.mp hx]
  show Stage.closing.rank ≤ Stage.ending.rank
  decide

theorem stage_ne_of_rank {x : Happening} {stage : Stage} (h : Stage.closing.rank ≤ x.event.stage.rank)
    (hlow : stage.rank < Stage.closing.rank) : x.event.stage ≠ stage := fun heq => by
  rw [heq] at h; omega

/-- Without a stream that cannot be opened, the release starts with the first close or with the client's stop. -/
theorem untilRelease_append {hs rs : List Happening} (before : ∀ x ∈ hs, x.event.stage.rank < Stage.closing.rank)
    (release : ∀ x ∈ rs, Stage.closing.rank ≤ x.event.stage.rank)
    (opens : (hs ++ rs).any Happening.refusesStream = false) : untilRelease (hs ++ rs) = hs := by
  rw [untilRelease, opens, if_neg Bool.false_ne_true,
    List.takeWhile_append_of_pos fun x hx => decide_eq_true (before x hx)]
  have hnone : rs.takeWhile (fun h => decide (h.event.stage.rank < Stage.closing.rank)) = [] := by
    cases rs with
    | nil => rfl
    | cons x rest =>
      rw [List.takeWhile_cons, if_neg]
      have hx := release x List.mem_cons_self
      simpa using hx
  rw [hnone, List.append_nil]

/-- What does not fail refuses no stream. -/
theorem refusesStream_of_fine {x : Happening} (h : x.failed = false) : x.refusesStream = false := by
  unfold Happening.refusesStream
  split
  · exact h
  · rfl

theorem refusesStream_of_stage {x : Happening} (h : x.event.stage ≠ .setup) : x.refusesStream = false := by
  unfold Happening.refusesStream
  split
  · rename_i heq
    exact absurd (by rw [heq]; rfl) h
  · rfl

section

variable {hs ls rs : List Happening} {opened : List Int}

theorem Connected.partitionsIn_eq (h : Connected s start hs opened) (transfer : AllAt .transfer ls)
    (release : ∀ x ∈ rs, Stage.closing.rank ≤ x.event.stage.rank) : partitionsIn (hs ++ ls ++ rs) = opened := by
  have hnone : openedIn rs = [] := by
    refine List.filterMap_eq_nil_iff.mpr fun x hx => ?_
    have halone : AllAt x.event.stage [x] := .one rfl
    have hone : openedIn [x] = [] :=
      openedIn_eq_nil halone (stage_ne_of_rank (release x hx) (by decide))
    exact List.filterMap_eq_nil_iff.mp hone x (List.mem_singleton_self x)
  rw [partitionsIn, openedIn_append, openedIn_append, h.opens, openedIn_eq_nil transfer (by decide), hnone]
  simp

/-- How reading ends in a run that opened all its streams. -/
theorem Connected.finishIn_eq (h : Connected s start hs opened) (transfer : AllAt .transfer ls)
    (release : ∀ x ∈ rs, Stage.closing.rank ≤ x.event.stage.rank) :
    finishIn s sink (hs ++ ls ++ rs) (cuesIn (hs ++ ls ++ rs))
      = ((stopIn hs).map .stopped).or
        (((s.rule sink opened).finish? [] (cuesIn ls)).or ((stopIn rs).map .stopped)) := by
  rw [finishIn, h.partitionsIn_eq transfer release]
  exact (s.rule sink opened).finish?_parts (h.setup.ne_transfer (by decide))
    fun x hx => stage_ne_of_rank (release x hx) (by decide)

/-- How reading ends before the release of such a run. -/
theorem Connected.finishIn_before (h : Connected s start hs opened) (transfer : AllAt .transfer ls)
    (release : ∀ x ∈ rs, Stage.closing.rank ≤ x.event.stage.rank) :
    finishIn s sink (hs ++ ls ++ rs) (cuesIn (hs ++ ls))
      = ((stopIn hs).map .stopped).or ((s.rule sink opened).finish? [] (cuesIn ls)) := by
  rw [finishIn, h.partitionsIn_eq transfer release, cuesIn_append]
  exact Rule.finish?_calls [] (h.setup.ne_transfer (by decide)) _

end

/-- A fatal ending has its reason in the history. -/
theorem Goes.impeded {hs : List Happening} (h : Goes c s start sink fuel st hs .fatal last output) :
    Impeded s sink st hs := by
  generalize hending : Ending.fatal = ending at h
  cases h with
  | @thwarted hs gs reply thwarted =>
    have hmem : ∀ x ∈ hs, x ∈ hs ++ gs ++ [.called .stop reply] :=
      fun x hx => List.mem_append_left _ (List.mem_append_left _ hx)
    rcases thwarted.hindered with ⟨x, hx, hbad⟩ | htime | ⟨m, hm, hbad⟩
    · exact .inl ⟨x, hmem x hx, hbad, by rw [thwarted.setup x hx]; decide⟩
    · exact .inr (.inl htime)
    · refine .inr (.inr (.inl ⟨m, ?_, hbad⟩))
      rw [metadataIn_append, metadataIn_append]
      exact List.mem_append_left _ (List.mem_append_left _ hm)
  | @through hs ls gs opened reply mid next result connected began transferred flushed closing closed =>
    cases result with
    | ok u => cases hending
    | error f =>
    have htransfer := transferred.transfers.stage
    rw [Impeded, connected.finishIn_eq htransfer (release_rank closing reply)]
    rcases transferred.result with ⟨x, hx, hbad⟩ | ⟨hgoes, g, hbroken⟩
    · refine .inl ⟨x, List.mem_append_left _ (List.mem_append_right _ hx), hbad, ?_⟩
      rw [htransfer x hx]; decide
    · rw [began] at hgoes
      obtain ⟨hst, hnone⟩ := Standing.after_eq_running hgoes
      exact .inr (.inr (.inr ⟨hst, g, by rw [hnone, hbroken]; rfl⟩))

/-- Where all went well, nothing in the history impedes the run: each thing that could is ruled out. -/
theorem Goes.not_impeded {hs : List Happening} (h : Goes c s start sink fuel st hs .fine last output) :
    ¬ Impeded s sink st hs := by
  generalize hending : Ending.fine = ending at h
  cases h with
  | thwarted => cases hending
  | @through hs ls gs opened reply mid next result connected began transferred flushed closing closed =>
    cases result with
    | error f => cases hending
    | ok u =>
    have hrank := release_rank closing reply
    have htransfer := transferred.transfers.stage
    obtain ⟨hfine, hstopped⟩ := transferred.result
    rw [Impeded, connected.finishIn_eq htransfer hrank]
    rintro (⟨x, hx, hbad, hlow⟩ | ⟨f, hf⟩ | ⟨m, hm, f, hf⟩ | ⟨hst, f, hf⟩)
    · rcases List.mem_append.mp hx with hx | hx
      · rcases List.mem_append.mp hx with hx | hx
        · exact absurd hbad (by rw [connected.fine x hx]; exact Bool.false_ne_true)
        · exact absurd hbad (by rw [hfine x hx]; exact Bool.false_ne_true)
      · have hle := hrank x hx
        omega
    · obtain ⟨seconds, htime, -⟩ := connected.events
      rw [htime] at hf
      cases hf
    · obtain ⟨m', ids, hmetadata, hids, -⟩ := connected.chosen_of_parts htransfer closing reply
      rw [hmetadata, List.mem_singleton] at hm
      rw [hm, hids] at hf
      cases hf
    · cases hnone : stopIn hs with
      | none =>
        obtain ⟨why, hwhy⟩ := hstopped (by rw [began, hst, hnone]; rfl)
        rw [hnone, hwhy] at hf
        cases hf
      | some why =>
        rw [hnone] at hf
        cases hf

/-- No failure leaves a run that goes through its parts. -/
theorem Goes.kept {hs : List Happening} {ending : Ending} (h : Goes c s start sink fuel st hs ending last output) :
    ending = .fine ∨ ending = .fatal := by
  cases h with
  | thwarted => exact .inr rfl
  | @through hs ls gs opened reply mid next result =>
    cases result with
    | ok u => exact .inl rfl
    | error f => exact .inr rfl

/-- **The ending is fatal** exactly if the run is impeded. -/
theorem Goes.fatal_iff {hs : List Happening} {ending : Ending}
    (h : Goes c s start sink fuel st hs ending last output) : ending = .fatal ↔ Impeded s sink st hs := by
  rcases h.kept with rfl | rfl
  · constructor
    · intro hfatal
      cases hfatal
    · intro himpeded
      exact absurd himpeded h.not_impeded
  · exact ⟨fun _ => h.impeded, fun _ => rfl⟩

/-- **A run that is not impeded** was stopped for the first reason there was, and its last flush was taken. -/
theorem Goes.fine {hs : List Happening} (h : Goes c s start sink fuel st hs .fine last output) :
    last = st.after ((finishIn s sink hs (cuesIn hs)).bind Finish.reason?) ∧ last.isRunning = false
      ∧ (hs.filter Happening.isUse).getLast? = some (.flushed true) := by
  generalize hending : Ending.fine = ending at h
  cases h with
  | thwarted => cases hending
  | @through hs ls gs opened reply mid next result connected began transferred flushed closing closed =>
    cases result with
    | error f => cases hending
    | ok u =>
    have htransfer := transferred.transfers.stage
    have hstanding := transferred.standing
    -- The loop does not return while the run goes on, and once it is stopped the release cannot change the reason.
    have hstopped : ∃ why, next.standing = .stopped why
        ∧ mid.standing.after ((((s.rule sink opened).finish? [] (cuesIn ls)).or
          ((stopIn (gs ++ [.called .stop reply])).map .stopped)).bind Finish.reason?) = .stopped why := by
      cases hmid : mid.standing with
      | running =>
        obtain ⟨why, hwhy⟩ := transferred.result.2 hmid
        rw [hmid, hwhy] at hstanding
        exact ⟨why, hstanding, by rw [hwhy]; rfl⟩
      | stopped why =>
        rw [hmid, Standing.after_stopped] at hstanding
        exact ⟨why, hstanding, Standing.after_stopped why _⟩
    obtain ⟨why, hlast, hfirst⟩ := hstopped
    rw [standingWith, hlast, Standing.after_stopped, connected.finishIn_eq htransfer (release_rank closing reply),
      bind_reason?_or, ← Standing.after_after, ← began, hfirst]
    refine ⟨rfl, rfl, ?_⟩
    obtain ⟨init, hinit⟩ := List.getLast?_eq_some_iff.mp (flushed rfl)
    rw [List.filter_append, List.filter_append, filter_isUse_eq_nil connected.setup (by decide),
      List.filter_append, filter_isUse_eq_nil closing (by decide), hinit, List.filter_append]
    simp [Happening.isUse]

/-- **A run that is impeded** was stopped for the first reason before its release, or else for the error. -/
theorem Goes.fatal {hs : List Happening} (h : Goes c s start sink fuel st hs .fatal last output) :
    last = (st.after ((finishIn s sink hs (cuesIn (untilRelease hs))).bind Finish.reason?)).stop "error" := by
  have hstop : ∀ (x : Standing) (r : Option String), (x.stop "error").after r = x.stop "error" :=
    fun x r => by cases x <;> exact Standing.after_stopped _ r
  generalize hending : Ending.fatal = ending at h
  cases h with
  | @thwarted hs gs reply thwarted =>
    -- Streams that are closed because one could not be opened are closed before the error counts.
    have huntil : untilRelease (hs ++ gs ++ [Happening.called .stop reply]) = hs ++ gs := by
      by_cases hrefused : (hs ++ gs ++ [Happening.called .stop reply]).any Happening.refusesStream = true
      · rw [untilRelease, if_pos hrefused, List.dropLast_concat]
      · rcases thwarted.reason with rfl | ⟨x, hx, hbad⟩
        · have hstop := release_rank (.nil : AllAt .closing []) reply
          rw [List.append_nil] at hrefused ⊢
          refine untilRelease_append (fun x hx => ?_) hstop (by simpa using hrefused)
          rw [thwarted.setup x hx]; decide
        · refine absurd (List.any_eq_true.mpr ⟨x, ?_, hbad⟩) hrefused
          exact List.mem_append_left _ (List.mem_append_left _ hx)
    have hcalls : ∀ x ∈ hs ++ gs, x.event.stage ≠ .transfer := List.forall_mem_append.mpr
      ⟨thwarted.setup.ne_transfer (by decide), thwarted.closing.ne_transfer (by decide)⟩
    rw [hstop, huntil, finishIn, ← List.append_nil (cuesIn (hs ++ gs)), Rule.finish?_calls [] hcalls,
      bind_reason?_or]
    exact congrArg (fun r => (st.after r).stop "error") Option.or_none.symm
  | @through hs ls gs opened reply mid next result connected began transferred flushed closing closed =>
    cases result with
    | ok u => cases hending
    | error f =>
    have htransfer := transferred.transfers.stage
    have hrank := release_rank closing reply
    have huntil : untilRelease (hs ++ ls ++ (gs ++ [.called .stop reply])) = hs ++ ls := by
      refine untilRelease_append (List.forall_mem_append.mpr ⟨?_, ?_⟩) hrank (List.any_eq_false.mpr ?_)
      · exact fun x hx => by rw [connected.setup x hx]; decide
      · exact fun x hx => by rw [htransfer x hx]; decide
      · refine List.forall_mem_append.mpr ⟨List.forall_mem_append.mpr ⟨fun x hx => ?_, fun x hx => ?_⟩,
          fun x hx => ?_⟩
        · rw [refusesStream_of_fine (connected.fine x hx)]; exact Bool.false_ne_true
        · rw [refusesStream_of_stage (by rw [htransfer x hx]; decide)]; exact Bool.false_ne_true
        · rw [refusesStream_of_stage (stage_ne_of_rank (hrank x hx) (by decide))]; exact Bool.false_ne_true
    rw [standingWith, hstop, huntil, connected.finishIn_before htransfer hrank, bind_reason?_or,
      ← Standing.after_after, ← began, transferred.standing]

/-! ## Whole runs -/

theorem spares_isError : Spares isError := by
  intro k hk
  simp only [ownKinds, List.mem_cons, List.not_mem_nil, or_false] at hk
  rcases hk with rfl | rfl | rfl | rfl | rfl | rfl | rfl | rfl | rfl | rfl | rfl <;> decide

theorem spares_isSummary : Spares isSummary := by
  intro k hk
  simp only [ownKinds, List.mem_cons, List.not_mem_nil, or_false] at hk
  rcases hk with rfl | rfl | rfl | rfl | rfl | rfl | rfl | rfl | rfl | rfl | rfl <;> decide

/-- What a run went through and left behind is told by the law. -/
theorem Goes.concluded {k : Clock} {hs : List Happening} {ending : Ending} {run final : Run σ}
    (h : Goes c s start sink fuel st hs ending final.standing output)
    (leaves : Leaves c sink k hs ending run final) :
    Concluded s sink k st hs ending run final where
  fatal_iff := h.fatal_iff
  fine hfine := by subst hfine; exact h.fine
  fatal hfatal := by subst hfatal; exact h.fatal
  errors := by
    rw [leaves.logged isError spares_isError]
    cases ending <;> simp [isError, Level.error, Level.info]
  summaries := by
    rw [leaves.logged isSummary spares_isSummary]
    simp [isSummary, Level.error, Level.info]
  latest := by
    obtain ⟨earlier, hsame, heq⟩ := leaves.summary
    subst heq
    exact ⟨_, rfl, rfl, rfl, rfl, rfl⟩

/-- A refused run is told of its refusal, or left by it. -/
theorem consume_of_refused {f : Failure} (hstart : starting s = .error f) (c : Client σ) (sink : Sink) (k : Clock)
    (fuel : Nat) (run : Run σ) :
    run.consume c sink s k fuel
      = if f.isClassified then (some .fatal, run.noteFailure Level.error runOrigin f.text [] false f)
        else (some (.raised f), run) := by
  unfold consume reject
  rw [hstart]
  dsimp only
  split <;> rfl

/-- **A run is left by a failure** exactly if the refusal of its settings cannot be worded. -/
theorem consume_raised_iff (c : Client σ) (sink : Sink) (s : Settings) (k : Clock) (fuel : Nat) (client : σ)
    (st : Standing) (j : Journal) :
    (∃ f, ((opening client st j).consume c sink s k fuel).1 = some (.raised f)) ↔ s.Unwritable := by
  cases hstart : starting s with
  | error f =>
    rw [consume_of_refused hstart]
    rcases starting_error hstart with ⟨hunwritable, rfl⟩ | ⟨hwritable, hclassified⟩
    · rw [if_neg (by decide)]
      exact iff_of_true ⟨_, rfl⟩ hunwritable
    · rw [if_pos hclassified]
      exact iff_of_false (fun ⟨_, h⟩ => nomatch h) hwritable
  | ok first =>
    rw [← starting_escapes_iff, hstart]
    refine iff_of_false ?_ (Escapes.not_ok first)
    have hgoes := consumeFrom_goes c sink s k first fuel _ (opening_unused client st j)
    rw [consume_eq hstart]
    rintro ⟨f, hraised⟩
    rw [eq_mk_of_fst hraised] at hgoes
    obtain ⟨hs, hgoes, -⟩ := hgoes
    rcases hgoes.kept with h | h <;> cases h

/-- **How a run ends.** It is left by a failure exactly if the refusal of its settings cannot be worded. Other settings
    that cannot be used are refused for a known problem, with one error in the log and no summary. With settings that
    can be used the run concludes as the law says, or it is still going on when its fuel, one unit a poll, is used up:
    nothing that its client and its sink may do gives it another way out. -/
theorem consume_concludes (c : Client σ) (sink : Sink) (s : Settings) (k : Clock) (fuel : Nat) (client : σ)
    (st : Standing) (j : Journal) :
    let start := opening client st j
    let outcome := start.consume c sink s k fuel
    ((∃ f, outcome.1 = some (.raised f)) ↔ s.Unwritable)
      ∧ match starting s, outcome.1 with
        | .error f, some (.raised g) => f = Value.tooLong ∧ g = f ∧ outcome.2 = start
        | .error f, ending => f.isClassified = true ∧ ending = some .fatal ∧ outcome.2.standing = st
          ∧ outcome.2.logged isError = start.logged isError + 1
          ∧ outcome.2.logged isSummary = start.logged isSummary
        | .ok _, none => pollsIn (outcome.2.told c sink client) = fuel ∧ outcome.2.standing = .running
        | .ok _, some ending => (ending = .fine ∨ ending = .fatal)
          ∧ Concluded s sink k st (outcome.2.told c sink client) ending start outcome.2 := by
  intro start outcome
  refine ⟨consume_raised_iff c sink s k fuel client st j, ?_⟩
  cases hstart : starting s with
  | error f =>
    have houtcome : outcome = _ := consume_of_refused hstart c sink k fuel start
    rcases starting_error hstart with ⟨_, rfl⟩ | ⟨_, hclassified⟩
    · rw [if_neg (by decide)] at houtcome
      rw [houtcome]
      exact ⟨rfl, rfl, rfl⟩
    · rw [if_pos hclassified] at houtcome
      rw [houtcome]
      refine ⟨hclassified, rfl, rfl, ?_, ?_⟩
      · exact logged_noteFailure isError ..
      · exact logged_noteFailure isSummary ..
  | ok first =>
    have hgoes := consumeFrom_goes c sink s k first fuel start (opening_unused client st j)
    have houtcome : outcome = start.consumeFrom c sink s k first fuel := consume_eq hstart
    rw [← houtcome] at hgoes
    clear_value outcome
    obtain ⟨result, final⟩ := outcome
    cases result with
    | none =>
      obtain ⟨hs, hadds, hpolls, hstanding⟩ := hgoes
      refine ⟨?_, hstanding⟩
      rw [hadds.told_eq, hpolls]
    | some ending =>
      obtain ⟨hs, hgoes, hleaves⟩ := hgoes
      obtain ⟨htold, -⟩ := hleaves.told_eq
      refine ⟨hgoes.kept, ?_⟩
      show Concluded s sink k st (final.told c sink client) ending start final
      rw [htold]
      exact hgoes.concluded hleaves

/-- A count that is too long cannot be refused in words, and leaves the run. A wait that is too long for a number of
    seconds makes a run fatal of which no call failed: nothing was asked between the client's start and its stop. -/
theorem consume_ends_otherwise :
    let script : Script := ⟨none, none, none, [], [], ⟨"events", true, none, [⟨0, none⟩]⟩, [], none, 0⟩
    let run (s : Settings) : Option Ending × Run Script :=
      (opening script .running .empty).consume Script.client .steady s ⟨.zero false, .zero false⟩ 5
    let counting : Settings := { Settings.usual "events" with count := some (-(10 ^ Whole.digitLimit)) }
    let waiting : Settings :=
      { Settings.usual "events" with connection := { Connection.usual with metadataTimeout := 10 ^ 312 } }
    let history := (run waiting).2.told Script.client .steady script
    (run counting).1 = some (.raised Value.tooLong)
      ∧ (run waiting).1 = some .fatal ∧ history.map Happening.event = [.call .start, .call .stop]
      ∧ ∀ h ∈ history, h.failed = false := by
  intro script run counting waiting history
  have hcounting : (run counting).1 = some (.raised Value.tooLong) := by
    have hnegative : -(10 ^ Whole.digitLimit) < (0 : Int) := neg_neg_of_pos (pow_pos (by decide) _)
    have hlong : (Value.int (-(10 ^ Whole.digitLimit))).holdsLong = true := by
      have hten : (10 : Int).natAbs = 10 := rfl
      unfold Value.holdsLong
      rw [decide_eq_true_eq, Int.natAbs_neg, Int.natAbs_pow, Value.longBound_eq, hten]
    have hunwritable : counting.Unwritable :=
      .count (by decide) (fun p h => absurd h (Option.some_ne_none p).symm) rfl hnegative hlong
    obtain ⟨f, hstart, _⟩ := (starting_escapes_iff counting).mpr hunwritable
    obtain ⟨_, rfl⟩ | ⟨hwritable, _⟩ := starting_error hstart
    · show (consume Script.client .steady counting _ 5 _).1 = _
      rw [consume_of_refused hstart, if_neg (by decide)]
    · exact absurd hunwritable hwritable
  have hwaiting : (run waiting).1.any (fun ending => decide (ending = .fatal)) = true := by decide +kernel
  obtain ⟨ending, hending, hfatal⟩ := (Option.any_eq_true _ _).mp hwaiting
  exact ⟨hcounting, hending.trans (congrArg some (of_decide_eq_true hfatal)), by decide +kernel, by decide +kernel⟩

end Run

end TopicReader
