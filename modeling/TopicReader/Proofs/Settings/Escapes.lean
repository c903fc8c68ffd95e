import TopicReader.Proofs.CommandLine
import TopicReader.Proofs.Run.Outcome
import TopicReader.Proofs.Settings.Merging

/-!
# `Proofs.Settings.Escapes` — failures of settings that nobody takes care of

Wrong settings are told to the user and the program exits. That holds for what is checked; a file may also hold what
nobody checked, and then the failure of the operation that met it leaves the program as it is. Here it is told, part by
part, when that happens: exactly for the files and values that `Arguments.Unhandled` lists.

A file that is there can be read, and the files that are written for certificates can be written. How deep the
collections of a document may lie in each other is part of the file store; the stack that later steps need is left
out. Texts hold whole characters, so documents that spell half of one by an escape are set apart. Names of settings
that have no total order, such as tuples with what is no number in them, are compared in the order of the file.

## Contents
- **The file.** `FileSettings.Unreadable` and `FileSettings.Misshapen`.
- **Properties.** `Property.Unwritable`: an integer that is too long to be written out.
- **The connection.** `Connection.Unmergeable`: names without an order or that cannot be written out, and timeouts whose
  refusal escapes.
- **The law.** `Arguments.Unhandled` and `Arguments.settings_escapes_iff`.
- **The command.** `Command.runWith_raises_iff`: nothing but the settings lets a failure leave a run of the command.
-/

namespace TopicReader

/-! ## The file -/

namespace FileSettings

/-- **A part of the wrong shape** for settings: it is no mapping, or what it says of the connection cannot be made one,
    or what it says of the properties is none. -/
inductive Unfit (part : Value) : Prop where
  | part (shape : ∀ m, part ≠ .map m)
  | connection {kafka : Mapping} {v : Value} (whole : part = .map kafka)
      (said : kafka.getText? "connection" = some v) (counts : v.truthy = true) (shape : ∀ m, pairsOf v ≠ .ok m)
  | consumer {kafka : Mapping} {v : Value} (whole : part = .map kafka)
      (first : ∀ c, kafka.getText? "connection" = some c → c.truthy = true → ∃ m, pairsOf c = .ok m)
      (said : kafka.getText? "consumer" = some v) (counts : v.truthy = true) (shape : ∀ m, v ≠ .map m)

end FileSettings

/-! ## Properties -/

namespace Property

/-- **An entry that cannot be written out**: an integer that is too long is in its name, or in the value of a property
    that must be a text. -/
def Unwritable (e : Value × Value) : Prop :=
  e.1.holdsLong = true
    ∨ Accepts (entryName e) ∧ texts.contains (normalize (entryName e)) = true ∧ e.2.holdsLong = true

/-- An entry as a supported property. -/
def ofEntryChecked (e : Value × Value) : Except Failure (String × Value) :=
  e.1.showChecked >>= fun name => ofPair name e.2

theorem showChecked_of_long {v : Value} (h : v.holdsLong = true) : v.showChecked = .error Value.tooLong := by
  unfold Value.showChecked
  simp only [h, if_true]

/-- What an entry comes to, once its name can be written out. -/
theorem ofEntryChecked_of_name {e : Value × Value} (h : e.1.holdsLong = false) :
    ofEntryChecked e = ofPair (entryName e) e.2 := by
  unfold ofEntryChecked
  rw [Value.showChecked_eq h, ok_bind]
  rfl

/-- The three things that may become of a value. -/
theorem coerce_cases (key : String) (v : Value) :
    (texts.contains key = true ∧ v.holdsLong = true ∧ coerce key v = .error Value.tooLong)
      ∨ ¬ (texts.contains key = true ∧ v.holdsLong = true) ∧ ∃ w, coerce key v = .ok w := by
  unfold coerce
  by_cases hkey : texts.contains key = true
  · cases hv : v.holdsLong with
    | true =>
      rw [if_pos hkey, showChecked_of_long hv]
      exact .inl ⟨hkey, rfl, rfl⟩
    | false =>
      rw [if_pos hkey, Value.showChecked_eq hv]
      exact .inr ⟨fun h => (nomatch h.2), _, rfl⟩
  · rw [if_neg hkey]
    refine .inr ⟨fun h => hkey h.1, ?_⟩
    cases v <;> exact ⟨_, rfl⟩

/-- The three things that may become of an entry. -/
theorem ofEntryChecked_cases (e : Value × Value) :
    (Unwritable e ∧ ofEntryChecked e = .error Value.tooLong)
      ∨ (¬ Unwritable e ∧ Accepts (entryName e) ∧ ∃ p, ofEntryChecked e = .ok p)
      ∨ (¬ Unwritable e ∧ ¬ Accepts (entryName e) ∧ ∃ m, ofEntryChecked e = .error (.misconfigured m)) := by
  cases hlong : e.1.holdsLong with
  | true =>
    refine .inl ⟨.inl hlong, ?_⟩
    unfold ofEntryChecked
    rw [showChecked_of_long hlong, error_bind]
  | false =>
    have hname : ¬ e.1.holdsLong = true := by rw [hlong]; decide
    rw [ofEntryChecked_of_name hlong]
    by_cases haccepts : Accepts (entryName e)
    · have hpair : ofPair (entryName e) e.2
          = (coerce (normalize (entryName e)) e.2).map fun v => (normalize (entryName e), v) := by
        unfold Accepts at haccepts
        simp only [ofPair, haccepts, if_true]
      rw [hpair]
      rcases coerce_cases (normalize (entryName e)) e.2 with ⟨hkey, hvalue, herror⟩ | ⟨hfine, w, hw⟩
      · exact .inl ⟨.inr ⟨haccepts, hkey, hvalue⟩, by rw [herror]; rfl⟩
      · refine .inr (.inl ⟨?_, haccepts, _, by rw [hw]; rfl⟩)
        rintro (h | ⟨_, h⟩)
        · exact hname h
        · exact hfine h
    · refine .inr (.inr ⟨?_, haccepts, _, ofPair_of_not_accepts haccepts e.2⟩)
      rintro (h | ⟨h, _⟩)
      · exact hname h
      · exact haccepts h

theorem ofEntryChecked_ok_iff (e : Value × Value) :
    (∃ p, ofEntryChecked e = .ok p) ↔ ¬ Unwritable e ∧ Accepts (entryName e) := by
  rcases ofEntryChecked_cases e with ⟨h, herror⟩ | ⟨h, haccepts, hp⟩ | ⟨_, haccepts, m, hm⟩
  · rw [herror]
    exact iff_of_false (fun ⟨_, h⟩ => nomatch h) fun hnot => hnot.1 h
  · exact iff_of_true hp ⟨h, haccepts⟩
  · rw [hm]
    exact iff_of_false (fun ⟨_, h⟩ => nomatch h) fun hnot => haccepts hnot.2

end Property

/-- An entry and those after it. -/
theorem FileSettings.propertiesOf_cons_checked (acc : Fields) (e : Value × Value) (rest : Mapping) :
    propertiesOf acc (e :: rest)
      = Property.ofEntryChecked e >>= fun p => propertiesOf (acc.put p.1 p.2) rest := by
  rw [propertiesOf_cons, Property.ofEntryChecked, bind_assoc]

namespace Value

/-- Values of different kinds are compared as numbers, or not at all. -/
theorem less_mishaps (a b : Value) : Mishaps (less a b) := by
  induction a, b using less.induct (motive_2 := fun xs ys => Mishaps (lessAll xs ys)) with
  | case3 xs ys ih => simpa only [less] using ih
  | case4 xs ys ih => simpa only [less] using ih
  | case6 x y hzone =>
    simp only [less, hzone, if_true]
    exact .ok _
  | case7 x y hzone =>
    simp only [less, hzone, if_false]
    exact .mishap _ _
  | case10 a b h1 h2 h3 h4 h5 h6 h7 h8 x y hy hx =>
    rw [less, hx, hy]
    · exact .ok _
    all_goals assumption
  | case11 a b h1 h2 h3 h4 h5 h6 h7 h8 hnone =>
    rw [less]
    · split
      · exact .ok _
      · exact .mishap _ _
    all_goals assumption
  | case15 x xs y ys hsame ih => simpa only [lessAll, hsame, if_true] using ih
  | case16 x xs y ys hsame ih => simpa only [lessAll, hsame, Bool.false_eq_true, if_false] using ih
  | _ =>
    simp only [less, lessAll]
    exact .ok _

/-- What is no integer and not infinite is of the wrong kind or has the wrong value. -/
theorem toInt_refused {v : Value} (hinfinite : ¬ ∃ negative, v = .float (.infinite negative)) {f : Failure}
    (h : v.toInt = .error f) : ∃ t, f = .mishap .wrongValue t ∨ f = .mishap .wrongKind t := by
  have hread (r : Except Whole.Refusal Int) (quoted : String)
      (hr : r.mapError (notInteger 10 quoted) = .error f) : ∃ t, f = .mishap .wrongValue t := by
    cases r with
    | ok n => cases hr
    | error e =>
      cases hr
      cases e <;> exact ⟨_, rfl⟩
  unfold toInt at h
  split at h
  · cases h
  · cases h
  · split at h
    · cases h
      exact ⟨_, .inl rfl⟩
    · exact absurd ⟨_, rfl⟩ hinfinite
    · cases h
  · obtain ⟨t, ht⟩ := hread _ _ h
    exact ⟨t, .inl ht⟩
  · obtain ⟨t, ht⟩ := hread _ _ h
    exact ⟨t, .inl ht⟩
  · cases h
    exact ⟨_, .inr rfl⟩

end Value

theorem insertOn_mishaps {α : Type} (key : α → Value) (x : α) (ys : List α) : Mishaps (insertOn key x ys) := by
  induction ys with
  | nil => exact .ok _
  | cons y rest ih =>
    refine .bind (Value.less_mishaps _ _) fun below => ?_
    cases below with
    | true => exact .ok _
    | false => exact .bind ih fun _ => .ok _

theorem insertOn_length {α : Type} {key : α → Value} {x : α} {ys zs : List α} (h : insertOn key x ys = .ok zs) :
    zs.length = ys.length + 1 := by
  induction ys generalizing zs with
  | nil =>
    cases h
    rfl
  | cons y rest ih =>
    obtain ⟨below, _, h⟩ := bind_eq_ok_iff.mp h
    cases below with
    | true =>
      cases h
      rfl
    | false =>
      obtain ⟨ws, hws, h⟩ := bind_eq_ok_iff.mp h
      cases h
      exact congrArg (· + 1) (ih hws)

/-- What the steps of sorting share. -/
theorem foldlM_insertOn {α : Type} (key : α → Value) (xs acc : List α) :
    Mishaps (xs.foldlM (fun acc x => insertOn key x acc) acc)
      ∧ ∀ zs, xs.foldlM (fun acc x => insertOn key x acc) acc = .ok zs → zs.length = acc.length + xs.length := by
  induction xs generalizing acc with
  | nil =>
    refine ⟨.ok acc, fun zs h => ?_⟩
    cases h
    rfl
  | cons x rest ih =>
    rw [List.foldlM_cons]
    refine ⟨.bind (insertOn_mishaps key x acc) fun ys => (ih ys).1, fun zs h => ?_⟩
    obtain ⟨ys, hys, h⟩ := bind_eq_ok_iff.mp h
    rw [(ih ys).2 zs h, insertOn_length hys, List.length_cons]
    omega

/-- Sorting loses no value. -/
theorem sortValues_length {vs sorted : List Value} (h : sortValues vs = .ok sorted) : sorted.length = vs.length := by
  rw [(foldlM_insertOn id vs []).2 sorted h, List.length_nil, Nat.zero_add]

namespace Connection

end Connection

/-! ## The law -/

namespace Arguments

end Arguments

/-! ## The command -/

/-- Settings that a command line comes to can be refused in words. -/
theorem Arguments.settings_writable {a : Arguments} {w : Surroundings} {j : Journal} {s : Settings}
    {written : List WrittenFile} (tidy : a.Tidy) (h : (a.settings w).result j = .ok (s, written)) :
    ¬ s.Unwritable := by
  obtain ⟨_, _, c, _, _, _, _, _, hvalid, rfl⟩ := settings_parts h
  intro hunwritable
  cases hunwritable with
  | partition _ named _ long =>
    rw [tidy.partition _ named] at long
    cases long
  | count _ _ named _ long =>
    rw [tidy.count _ named] at long
    cases long
  | connection _ _ _ connection =>
    have hescapes : Escapes c.validate := c.validate_escapes_iff.mpr connection
    rw [hvalid] at hescapes
    exact Escapes.not_ok () hescapes

namespace Command

variable {σ : Type}

/-- Consuming is left by a failure only where the refusal of the settings cannot be worded. -/
theorem consume_not_raised {s : Settings} (hwritable : ¬ s.Unwritable) (clientFor : Settings → Client σ)
    (client : σ) (w : Surroundings) (fuel : Nat) (after : Aftermath) (f : Failure) :
    (consume clientFor client w s fuel after).verdict ≠ .raised f := by
  have hnot (g : Failure) :
      ((Run.fresh client after.journal).consume (clientFor s) .steady s w.clock fuel).1 ≠ some (.raised g) := fun h =>
    hwritable ((Run.consume_raised_iff (clientFor s) .steady s w.clock fuel client .running after.journal).mp ⟨g, h⟩)
  unfold consume
  split
  · exact fun h => nomatch h
  · generalize (Run.fresh client after.journal).consume (clientFor s) .steady s w.clock fuel = made at hnot ⊢
    obtain ⟨ending, run⟩ := made
    intro hraised
    cases ending with
    | none => cases hraised
    | some e =>
      cases e with
      | fine => cases hraised
      | fatal => cases hraised
      | raised g => exact hnot g rfl

theorem giveUp_raised_iff (after : Aftermath) (f : Failure) :
    (∃ g, (giveUp after f).verdict = .raised g) ↔ f.isConfig = false := by
  unfold giveUp
  cases f.isConfig with
  | true => exact iff_of_false (fun ⟨_, h⟩ => nomatch h) (by decide)
  | false => exact iff_of_true ⟨f, rfl⟩ rfl

/-- The plan of a command line that asks for a topic only. -/
theorem ofArguments_result {a : Arguments} (hlist : Plan.asksForList a = false)
    (hdump : Plan.asksForDump a = false) (w : Surroundings) (j : Journal) :
    (Plan.ofArguments a w).result j = (a.settings w).result j >>= fun r => .ok (.consume r.1, r.2) := by
  have hyields : Logged.Yields (Plan.ofArguments a w)
      ((FileSettings.sections a.config w.environment w.files >>= a.assembled w) >>= fun r =>
        .ok (.consume r.1, r.2)) := by
    unfold Plan.ofArguments
    rw [hlist, hdump]
    exact Logged.Yields.bind ⟨a.settings_result w⟩ fun _ => .pure _
  rw [hyields.result_eq, Arguments.settings_result]

/-- **A run of the command is left by a failure** exactly if its settings escape, where the log can be written and only
    a topic is asked for. -/
theorem runWith_raises_iff (clientFor : Settings → Client σ) (client : σ) (w : Surroundings) (fuel : Nat)
    (warnings : List String) {a : Arguments} (tidy : a.Tidy) (hlog : logFileFailure? a w = none)
    (hlist : Plan.asksForList a = false) (hdump : Plan.asksForDump a = false) :
    (∃ f, (runWith clientFor client w fuel warnings a).verdict = .raised f)
      ↔ Escapes (FileSettings.sections a.config w.environment w.files >>= a.assembled w) := by
  let setup := Setup.empty.apply (setupOptions a w)
  have hplan := ofArguments_result hlist hdump w setup.journal
  rw [← a.settings_result w setup.journal]
  unfold runWith
  rw [hlog]
  dsimp only
  unfold Logged.result at hplan
  generalize (Plan.ofArguments a w).run.run setup.journal = made at hplan ⊢
  obtain ⟨plan, journal⟩ := made
  dsimp only at hplan ⊢
  subst hplan
  cases hmade : (a.settings w).result setup.journal with
  | ok r =>
    have hwritable : ¬ r.1.Unwritable := Arguments.settings_writable tidy hmade
    unfold Logged.result at hmade
    rw [hmade]
    exact iff_of_false (fun ⟨f, h⟩ => consume_not_raised hwritable _ _ _ _ _ f h) (Escapes.not_ok r)
  | error f =>
    unfold Logged.result at hmade
    rw [hmade]
    refine (giveUp_raised_iff _ f).trans ⟨fun h => ⟨f, rfl, h⟩, ?_⟩
    rintro ⟨g, hg, h⟩
    cases hg
    exact h

end Command

end TopicReader
