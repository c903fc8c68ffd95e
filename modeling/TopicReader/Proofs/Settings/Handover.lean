import TopicReader.Proofs.CommandLine
import TopicReader.Proofs.Settings.Refusing

/-!
# `Proofs.Settings.Handover` — what reaches the consumer

A command reads its command line, its environment and its file, and only then hands settings over to a consumer; on
the way it may come to its end without one. What it hands over has passed checks in many places: the reading of
delimiters, the check of the command line, the two commands that end it early, the names of the properties, and the
connection. Here these are put together: the settings that are handed over are ready, and of all the causes for which
settings are refused before a run, three are left.

## Contents
- **Refusals.** `Settings.Ready`, and `Settings.Fault`: what is still refused of ready settings.
- **The handover.** `Command.handover`: a command up to its consumer, and `Command.run_eq_finish`.
- **The law.** `Command.handover_ready`.
-/

namespace TopicReader

open TopicReader.Text

/-! ## Refusals -/

namespace Settings

/-- **Ready settings**: they name a topic, their delimiters are single bytes, their properties are supported and their
    connection is valid. -/
structure Ready (s : Settings) : Prop where
  topic : s.topic ≠ ""
  delimiter : s.delimiter.length = 1
  keyDelimiter : ∀ bytes, s.keyDelimiter = some bytes → bytes.length = 1
  properties : Property.Sound s.properties
  connection : s.connection.validate = .ok ()

/-- **What is refused of ready settings**, the first that applies: a negative partition, a negative count, or stored
    offsets without a group. -/
inductive Fault (s : Settings) : Misconfiguration → Prop where
  | partition {n : Int} (named : s.partition = some n) (negative : n < 0) : Fault s (.negativePartition n)
  | count {n : Int} (before : ∀ m, s.partition = some m → 0 ≤ m) (named : s.count = some n) (negative : n < 0) :
      Fault s (.negativeCount n)
  | group (partition : ∀ m, s.partition = some m → 0 ≤ m) (count : ∀ m, s.count = some m → 0 ≤ m)
      (stored : trimText s.offset = "stored") (groupless : s.groupId.truthy = false) : Fault s .storedWithoutGroup

/-- Of the checks of ready settings, those of the numbers and of the group are left. -/
theorem Ready.validate_eq {s : Settings} (h : s.Ready) :
    s.validate = refuseNegative s.partition .negativePartition >>= fun _ =>
      refuseNegative s.count .negativeCount >>= fun _ =>
        if trimText s.offset = "stored" ∧ s.groupId.truthy = false then
          .error (.misconfigured .storedWithoutGroup)
        else .ok () := by
  have hrecord : refuseLength (some s.delimiter) .delimiterLength = .ok () := if_pos h.delimiter
  have hkey : refuseLength s.keyDelimiter .keyDelimiterLength = .ok () := refuseLength_of_single h.keyDelimiter _
  unfold validate
  dsimp only
  rw [if_neg h.topic, hrecord, hkey, h.properties.checks, h.connection]
  rfl

/-- A number that can be written out is refused in words. -/
theorem refuseNegative_error_iff_of_short {n : Option Int} {m : Int → Misconfiguration} {f : Failure}
    (hshort : ∀ k, n = some k → (Value.int k).holdsLong = false) (hm : ∀ k, (m k).shown = [.int k]) :
    refuseNegative n m = .error f ↔ ∃ k, n = some k ∧ k < 0 ∧ f = .misconfigured (m k) := by
  have hworded {k : Int} (hk : n = some k) : Failure.refusing (m k) = .misconfigured (m k) := by
    apply Failure.refusing_of_short
    rw [hm, Value.holdsLongAll_one]
    exact hshort k hk
  rw [refuseNegative_error_iff]
  constructor
  · rintro ⟨k, hk, hneg, rfl⟩
    exact ⟨k, hk, hneg, hworded hk⟩
  · rintro ⟨k, hk, hneg, rfl⟩
    exact ⟨k, hk, hneg, (hworded hk).symm⟩

/-- **Ready settings are refused for a fault** and for nothing else, where their numbers can be written out. -/
theorem Ready.validate_error_iff {s : Settings} (h : s.Ready)
    (hpartition : ∀ n, s.partition = some n → (Value.int n).holdsLong = false)
    (hcount : ∀ n, s.count = some n → (Value.int n).holdsLong = false) {f : Failure} :
    s.validate = .error f ↔ ∃ m, f = .misconfigured m ∧ s.Fault m := by
  have hpartitioned {g : Failure} := refuseNegative_error_iff_of_short (m := .negativePartition) (f := g) hpartition
    fun _ => rfl
  have hcounted {g : Failure} := refuseNegative_error_iff_of_short (m := .negativeCount) (f := g) hcount fun _ => rfl
  rw [h.validate_eq]
  constructor
  · intro hrefused
    -- The checks stand one behind the other, and the first that refuses decides.
    rcases bind_eq_error_iff.mp hrefused with hfirst | ⟨_, hfirst, hrest⟩
    · obtain ⟨n, hn, hneg, rfl⟩ := hpartitioned.mp hfirst
      exact ⟨_, rfl, .partition hn hneg⟩
    rcases bind_eq_error_iff.mp hrest with hsecond | ⟨_, hsecond, hlast⟩
    · obtain ⟨n, hn, hneg, rfl⟩ := hcounted.mp hsecond
      exact ⟨_, rfl, .count (refuseNegative_ok_iff.mp hfirst) hn hneg⟩
    · by_cases hgroup : trimText s.offset = "stored" ∧ s.groupId.truthy = false
      · rw [if_pos hgroup] at hlast
        cases hlast
        exact ⟨_, rfl, .group (refuseNegative_ok_iff.mp hfirst) (refuseNegative_ok_iff.mp hsecond) hgroup.1 hgroup.2⟩
      · rw [if_neg hgroup] at hlast
        cases hlast
  · rintro ⟨m, rfl, hfault⟩
    cases hfault with
    | partition hn hneg => rw [hpartitioned.mpr ⟨_, hn, hneg, rfl⟩, error_bind]
    | count hbefore hn hneg =>
      rw [refuseNegative_ok_iff.mpr hbefore, ok_bind, hcounted.mpr ⟨_, hn, hneg, rfl⟩, error_bind]
    | group hfirst hsecond hstored hgroupless =>
      rw [refuseNegative_ok_iff.mpr hfirst, ok_bind, refuseNegative_ok_iff.mpr hsecond, ok_bind]
      exact if_pos ⟨hstored, hgroupless⟩

end Settings

/-- Settings that were made at all have a connection that was checked, and sound properties. -/
theorem Arguments.settings_made {a : Arguments} {w : Surroundings} {j : Journal} {s : Settings}
    {written : List WrittenFile} (h : (a.settings w).result j = .ok (s, written)) :
    ∃ c properties, c.validate = .ok () ∧ Property.Sound properties ∧ s = a.settingsWith c properties := by
  have hsound := settings_sound h
  obtain ⟨_, _, c, properties, _, _, _, _, hvalid, rfl⟩ := settings_parts h
  exact ⟨c, properties, hvalid, hsound, rfl⟩

/-! ## The handover -/

namespace Command

/-- What a command comes to without a consumer: it hands settings over, or it is at its end. -/
inductive Handover where
  | handed (s : Settings) (w : Surroundings) (after : Aftermath)
  | ended (after : Aftermath)

variable {σ : Type}

/-- A consumer takes over what is handed to it. -/
def Handover.finish (clientFor : Settings → Client σ) (client : σ) (fuel : Nat) : Handover → Aftermath
  | .handed s w after => consume clientFor client w s fuel after
  | .ended after => after

/-- A plan, as far as it goes without a consumer. -/
def carry (w : Surroundings) (after : Aftermath) : Plan → Handover
  | .list => .ended (print Property.listing none after)
  | .dump d => .ended (print d.text d.failure after)
  | .consume s => .handed s w after

/-- From the arguments on, as far as it goes without a consumer. -/
def handoverWith (w : Surroundings) (warnings : List String) (a : Arguments) : Handover :=
  match logFileFailure? a w with
  | some f => .ended (bare (.raised f) warnings)
  | none =>
    let setup := Setup.empty.apply (setupOptions a w)
    let (plan, journal) := (Plan.ofArguments a w).run.run setup.journal
    let after : Aftermath := ⟨.unfinished, warnings, setup.sinks, journal, [], [], []⟩
    match plan with
    | .ok (p, written) => carry w { after with written := written } p
    | .error f => .ended (giveUp after f)

/-- **The whole command, as far as it goes without a consumer.** -/
def handover (w : Surroundings) (texts : List String) : Handover :=
  match w.environment.withDotfile w.files with
  | .error f => .ended (bare (.raised f) [])
  | .ok (environment, wrong) =>
    let warnings := wrong.map lineWarning
    match Arguments.ofList texts with
    | .error d => .ended (bare (.dismissed d) warnings)
    | .ok a => handoverWith { w with environment := environment } warnings a

section
variable (clientFor : Settings → Client σ) (client : σ) (w : Surroundings) (fuel : Nat)

theorem carryOut_eq_finish (after : Aftermath) (p : Plan) :
    carryOut clientFor client w fuel after p = (carry w after p).finish clientFor client fuel := by
  cases p with
  | list => rfl
  | dump d => rfl
  | consume s => rfl

theorem runWith_eq_finish (warnings : List String) (a : Arguments) :
    runWith clientFor client w fuel warnings a = (handoverWith w warnings a).finish clientFor client fuel := by
  unfold runWith handoverWith
  cases logFileFailure? a w with
  | some f => rfl
  | none =>
    dsimp only
    obtain ⟨plan, journal⟩ := (Plan.ofArguments a w).run.run (Setup.empty.apply (setupOptions a w)).journal
    cases plan with
    | error f => rfl
    | ok made => exact carryOut_eq_finish clientFor client w fuel _ made.1

/-- **A run is its handover and a consumer after it**, whatever the consumer. -/
theorem run_eq_finish (texts : List String) :
    run clientFor client w fuel texts = (handover w texts).finish clientFor client fuel := by
  unfold run handover
  cases w.environment.withDotfile w.files with
  | error f => rfl
  | ok bound =>
    dsimp only
    cases Arguments.ofList texts with
    | error d => rfl
    | ok a => exact runWith_eq_finish clientFor client _ fuel _ a

end

/-- No argument is a command where neither a list nor a dump is asked for. -/
theorem not_command {a : Arguments} (hlist : Plan.asksForList a = false) (hdump : Plan.asksForDump a = false) :
    ∀ p ∈ a.properties, p ∉ Arguments.commandWords := by
  intro p hp hcommand
  have hneither := List.any_eq_false.mp hlist p hp
  simp only [Bool.or_eq_true, decide_eq_true_eq, not_or] at hneither
  have hother : p ≠ "dump" := by
    rintro rfl
    have hasked : Plan.asksForDump a = true := List.contains_iff_mem.mpr hp
    rw [hdump] at hasked
    cases hasked
  have hwords : p = "list" ∨ p = "help" ∨ p = "dump" := by
    simpa [Arguments.commandWords] using hcommand
  rcases hwords with h | h | h
  · exact hneither.1 h
  · exact hneither.2 h
  · exact hother h

/-- A plan to consume is made of settings, where neither a list nor a dump is asked for. -/
theorem ofArguments_consume {a : Arguments} {w : Surroundings} {j : Journal} {s : Settings}
    {written : List WrittenFile} (h : (Plan.ofArguments a w).result j = .ok (.consume s, written)) :
    (∀ p ∈ a.properties, p ∉ Arguments.commandWords) ∧ (a.settings w).result j = .ok (s, written) := by
  have hyields : Logged.Yields (Plan.ofArguments a w)
      (if Plan.asksForList a then .ok (.list, [])
        else (FileSettings.sections a.config w.environment w.files >>= a.assembled w) >>= fun made =>
          .ok (if Plan.asksForDump a then .dump (.ofRun w.loader made.1) else .consume made.1, made.2)) := by
    unfold Plan.ofArguments
    split
    · exact .pure _
    · exact .bind ⟨a.settings_result w⟩ fun _ => .pure _
  rw [hyields.result_eq] at h
  rw [Arguments.settings_result]
  cases hlist : Plan.asksForList a with
  | true =>
    simp only [hlist, if_true] at h
    cases h
  | false =>
    simp only [hlist, Bool.false_eq_true, if_false] at h
    obtain ⟨made, hmade, hplan⟩ := bind_eq_ok_iff.mp h
    cases hdump : Plan.asksForDump a with
    | true =>
      simp only [hdump, if_true] at hplan
      cases hplan
    | false =>
      simp only [hdump, Bool.false_eq_true, if_false] at hplan
      cases hplan
      exact ⟨not_command hlist hdump, hmade⟩

theorem carry_over {w w' : Surroundings} {after after' : Aftermath} {p : Plan} {s : Settings}
    (h : carry w after p = .handed s w' after') : p = .consume s ∧ w' = w := by
  cases p with
  | list => cases h
  | dump d => cases h
  | consume other =>
    cases h
    exact ⟨rfl, rfl⟩

/-- What must have happened for settings to be handed over. -/
theorem handoverWith_over {w w' : Surroundings} {warnings : List String} {a : Arguments} {s : Settings}
    {after : Aftermath} (h : handoverWith w warnings a = .handed s w' after) :
    w' = w ∧ ∃ j written, (Plan.ofArguments a w).result j = .ok (.consume s, written) := by
  unfold handoverWith at h
  cases hlog : logFileFailure? a w with
  | some f =>
    simp only [hlog] at h
    cases h
  | none =>
    simp only [hlog] at h
    -- Both the plan and the log are read off one run, so the pair is taken apart with the result at hand.
    have hresult : (Plan.ofArguments a w).result (Setup.empty.apply (setupOptions a w)).journal
        = ((Plan.ofArguments a w).run.run (Setup.empty.apply (setupOptions a w)).journal).1 := rfl
    revert h hresult
    obtain ⟨plan, journal⟩ := (Plan.ofArguments a w).run.run (Setup.empty.apply (setupOptions a w)).journal
    intro h hresult
    cases plan with
    | error f => cases h
    | ok made =>
      obtain ⟨p, written⟩ := made
      obtain ⟨rfl, rfl⟩ := carry_over h
      exact ⟨rfl, _, written, hresult⟩

theorem handover_over {w w' : Surroundings} {texts : List String} {s : Settings} {after : Aftermath}
    (h : handover w texts = .handed s w' after) :
    ∃ a j written, Arguments.ofList texts = .ok a
      ∧ (Plan.ofArguments a w').result j = .ok (.consume s, written) := by
  unfold handover at h
  cases hbound : w.environment.withDotfile w.files with
  | error f =>
    rw [hbound] at h
    cases h
  | ok bound =>
    rw [hbound] at h
    dsimp only at h
    cases hread : Arguments.ofList texts with
    | error d =>
      rw [hread] at h
      cases h
    | ok a =>
      rw [hread] at h
      obtain ⟨rfl, j, written, hplan⟩ := handoverWith_over h
      exact ⟨a, j, written, rfl, hplan⟩

/-! ## The law -/

/-- **What reaches a consumer is ready**: a run is its handover and a consumer after it; where settings are handed over,
    no argument was a command, the settings are ready, and what is still refused of them is a fault. -/
theorem handover_ready (w : Surroundings) (texts : List String) :
    (∀ (clientFor : Settings → Client σ) (client : σ) (fuel : Nat),
        run clientFor client w fuel texts = (handover w texts).finish clientFor client fuel)
      ∧ ∀ s w' after, handover w texts = .handed s w' after →
        (∃ a, Arguments.ofList texts = .ok a ∧ ∀ p ∈ a.properties, p ∉ Arguments.commandWords)
          ∧ s.Ready
          ∧ ∀ f, s.validate = .error f ↔ ∃ m, f = .misconfigured m ∧ s.Fault m := by
  constructor
  · intro clientFor client fuel
    exact run_eq_finish clientFor client w fuel texts
  · intro s w' after h
    obtain ⟨a, j, written, hread, hplan⟩ := handover_over h
    obtain ⟨hcommands, hsettings⟩ := ofArguments_consume hplan
    obtain ⟨c, properties, hvalid, hsound, rfl⟩ := Arguments.settings_made hsettings
    have htidy : a.Tidy := Arguments.ofList_tidy hread
    have hnone : a.hasCommand = false := by
      apply List.any_eq_false.mpr
      intro p hp
      have hnot : p ∉ Arguments.commandWords := hcommands p hp
      simpa using hnot
    have hready : (a.settingsWith c properties).Ready :=
      { topic := Arguments.ofList_topic hread hnone
        delimiter := htidy.record
        keyDelimiter := htidy.key
        properties := hsound
        connection := hvalid }
    exact ⟨⟨a, hread, hcommands⟩, hready, fun f => hready.validate_error_iff htidy.partition htidy.count⟩

/-- A negative partition gets as far as the consumer, which refuses it. -/
theorem handover_ready_of_script :
    let w : Surroundings := .holding [] []
    let texts := ["-k", "\\t", "-X", "group.id=g", "events", "-p", "-1"]
    ∃ s w' after, handover w texts = .handed s w' after ∧ s.Ready ∧ s.keyDelimiter = some [9]
      ∧ s.validate = .error (.misconfigured (.negativePartition (-1))) := by
  intro w texts
  have hmade : (match handover w texts with
      | .handed s _ _ => s.keyDelimiter == some [9] && s.partition == some (-1)
      | .ended _ => false) = true := by decide +kernel
  cases h : handover w texts with
  | ended after =>
    rw [h] at hmade
    cases hmade
  | handed s w' after =>
    rw [h] at hmade
    obtain ⟨hkey, hpartition⟩ := Bool.and_eq_true_iff.mp hmade
    obtain ⟨_, hready, hrefused⟩ := (handover_ready (σ := Unit) w texts).2 s w' after h
    have hfault : s.Fault (.negativePartition (-1)) := .partition (eq_of_beq hpartition) (by decide)
    exact ⟨s, w', after, rfl, hready, eq_of_beq hkey, (hrefused _).mpr ⟨_, rfl, hfault⟩⟩

end Command

end TopicReader
