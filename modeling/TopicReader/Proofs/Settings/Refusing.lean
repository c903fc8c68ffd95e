import TopicReader.Proofs.Settings.Loading

/-!
# `Proofs.Settings.Refusing` — refusals, and those that cannot be worded

Settings are checked one thing after the other, and the first that is wrong is what they are refused for. The wording
of a refusal shows the value that it is about. If that holds an integer that is too long to be written out, then the
wording is what fails, and nothing is said of the settings: such a failure escapes.

## Contents
- **Escaping.** `Escapes`: a computation that fails, but not because the settings are wrong; `Mishaps`: one that fails
  in no other way.
- **Refusing.** `Failure.refusing_cases`, and `Refusing`: a computation that fails with refusals only.
- **Single checks.** When they pass, how they refuse, and when that escapes.
- **Unwritable settings.** `Connection.Unwritable` and `Settings.Unwritable`; `Connection.validate_escapes_iff` and
  `Settings.validate_escapes_iff`.
-/

namespace TopicReader

open TopicReader.Text

variable {α β : Type}

/-! ## Escaping -/

/-- **A failure escapes** if it does not say that the settings are wrong. -/
def Escapes (r : Except Failure α) : Prop := ∃ f, r = .error f ∧ f.isConfig = false

/-- A computation that fails with mishaps only. -/
def Mishaps (r : Except Failure α) : Prop := ∀ f, r = .error f → ∃ m t, f = .mishap m t

namespace Escapes

theorem not_ok (a : α) : ¬ Escapes (.ok a) := fun ⟨_, h, _⟩ => nomatch h

theorem not_misconfigured (m : Misconfiguration) : ¬ Escapes (α := α) (.error (.misconfigured m)) := by
  rintro ⟨f, h, hf⟩
  cases h
  cases hf

instance (r : Except Failure α) : Decidable (Escapes r) :=
  match r with
  | .ok a => .isFalse (not_ok a)
  | .error f => decidable_of_iff (f.isConfig = false) ⟨fun h => ⟨f, rfl, h⟩, fun ⟨_, hf, h⟩ => by cases hf; exact h⟩

theorem bind_iff {x : Except Failure α} {k : α → Except Failure β} :
    Escapes (x >>= k) ↔ Escapes x ∨ ∃ a, x = .ok a ∧ Escapes (k a) := by
  unfold Escapes
  simp only [bind_eq_error_iff]
  constructor
  · rintro ⟨f, h | ⟨a, ha, h⟩, hf⟩
    · exact .inl ⟨f, h, hf⟩
    · exact .inr ⟨a, ha, f, h, hf⟩
  · rintro (⟨f, h, hf⟩ | ⟨a, ha, f, h, hf⟩)
    · exact ⟨f, .inl h, hf⟩
    · exact ⟨f, .inr ⟨a, ha, h⟩, hf⟩

/-- A check, and what is done where it passes. -/
theorem check_iff {x : Except Failure Unit} {y : Except Failure α} :
    Escapes (x >>= fun _ => y) ↔ Escapes x ∨ x = .ok () ∧ Escapes y := by
  rw [bind_iff]
  exact or_congr_right ⟨fun ⟨_, hx, hy⟩ => ⟨hx, hy⟩, fun ⟨hx, hy⟩ => ⟨(), hx, hy⟩⟩

end Escapes

namespace Mishaps

theorem ok (a : α) : Mishaps (.ok a) := fun _ h => nomatch h

theorem mishap (m : Mishap) (t : String) : Mishaps (α := α) (.error (.mishap m t)) := fun _ h => by
  cases h
  exact ⟨m, t, rfl⟩

theorem bind {x : Except Failure α} {k : α → Except Failure β} (h : Mishaps x) (hk : ∀ a, Mishaps (k a)) :
    Mishaps (x >>= k) := by
  intro f hf
  rcases bind_eq_error_iff.mp hf with hf | ⟨a, _, hf⟩
  · exact h f hf
  · exact hk a f hf

end Mishaps

/-! ## Refusing -/

theorem Failure.refusing_of_long {m : Misconfiguration} (h : Value.holdsLongAll m.shown = true) :
    refusing m = Value.tooLong := if_pos h

theorem Failure.refusing_of_short {m : Misconfiguration} (h : Value.holdsLongAll m.shown = false) :
    refusing m = misconfigured m := by
  unfold refusing
  rw [if_neg (by rw [h]; decide)]

/-- A refusal is told, or its wording is what fails. -/
theorem Failure.refusing_cases (m : Misconfiguration) :
    (Value.holdsLongAll m.shown = true ∧ refusing m = Value.tooLong)
      ∨ (Value.holdsLongAll m.shown = false ∧ refusing m = misconfigured m) := by
  cases h : Value.holdsLongAll m.shown with
  | true => exact .inl ⟨rfl, refusing_of_long h⟩
  | false => exact .inr ⟨rfl, refusing_of_short h⟩

/-- A refusal escapes exactly if it cannot be worded. -/
theorem Escapes.refusing_iff (m : Misconfiguration) :
    Escapes (α := α) (.error (.refusing m)) ↔ Value.holdsLongAll m.shown = true := by
  rcases Failure.refusing_cases m with ⟨hlong, heq⟩ | ⟨hshort, heq⟩
  · rw [heq]
    exact iff_of_true ⟨_, rfl, rfl⟩ hlong
  · rw [heq, hshort]
    exact iff_of_false (Escapes.not_misconfigured m) Bool.false_ne_true

/-- An integer is the only one in what shows nothing else. -/
theorem Value.holdsLongAll_one (v : Value) : holdsLongAll [v] = v.holdsLong := by
  simp only [holdsLongAll, Bool.or_false]

/-- A check that refuses, and what is done where it passes. -/
theorem Escapes.refused_or_iff {p : Prop} [Decidable p] (m : Misconfiguration) (rest : Except Failure α) :
    Escapes (if p then .error (.refusing m) else rest)
      ↔ (p ∧ Value.holdsLongAll m.shown = true) ∨ (¬ p ∧ Escapes rest) := by
  by_cases h : p
  · rw [if_pos h, refusing_iff]
    exact ⟨fun long => .inl ⟨h, long⟩, fun hor => hor.elim And.right fun hnot => absurd h hnot.1⟩
  · rw [if_neg h]
    exact ⟨fun escapes => .inr ⟨h, escapes⟩, fun hor => hor.elim (fun hyes => absurd hyes.1 h) And.right⟩

/-- A computation that fails with refusals only. -/
def Refusing (r : Except Failure α) : Prop := ∀ f, r = .error f → ∃ m, f = .refusing m

namespace Refusing

theorem ok (a : α) : Refusing (.ok a) := fun _ h => nomatch h

theorem refusing (m : Misconfiguration) : Refusing (α := α) (.error (.refusing m)) := fun f h => by
  cases h
  exact ⟨m, rfl⟩

/-- A cause whose wording shows no value can always be told. -/
theorem misconfigured {m : Misconfiguration} (h : m.shown = []) :
    Refusing (α := α) (.error (.misconfigured m)) := fun f hf => by
  cases hf
  refine ⟨m, (Failure.refusing_of_short ?_).symm⟩
  rw [h]
  rfl

theorem bind {x : Except Failure α} {k : α → Except Failure β} (h : Refusing x) (hk : ∀ a, Refusing (k a)) :
    Refusing (x >>= k) := by
  intro f hf
  rcases bind_eq_error_iff.mp hf with hf | ⟨a, _, hf⟩
  · exact h f hf
  · exact hk a f hf

/-- What escapes from refusals is that one of them could not be worded. -/
theorem eq_tooLong {r : Except Failure α} {f : Failure} (h : Refusing r) (hf : r = .error f) (hescapes : Escapes r) :
    f = Value.tooLong := by
  obtain ⟨m, rfl⟩ := h f hf
  rw [hf, Escapes.refusing_iff] at hescapes
  exact Failure.refusing_of_long hescapes

/-- What does not escape is a known problem. -/
theorem isClassified {r : Except Failure α} {f : Failure} (h : Refusing r) (hf : r = .error f)
    (hkept : ¬ Escapes r) : f.isClassified = true := by
  obtain ⟨m, rfl⟩ := h f hf
  rw [hf, Escapes.refusing_iff, Bool.not_eq_true] at hkept
  rw [Failure.refusing_of_short hkept]
  rfl

end Refusing

/-! ## Single checks -/

namespace Settings

theorem refuseNegative_ok_iff {n : Option Int} {m : Int → Misconfiguration} :
    refuseNegative n m = .ok () ↔ ∀ k, n = some k → 0 ≤ k := by
  cases n with
  | none => simp [refuseNegative]
  | some k =>
    by_cases h : k < 0
    · simp [refuseNegative, h]
    · have hle : 0 ≤ k := by omega
      simp [refuseNegative, h, hle]

theorem refuseNegative_error_iff {n : Option Int} {m : Int → Misconfiguration} {f : Failure} :
    refuseNegative n m = .error f ↔ ∃ k, n = some k ∧ k < 0 ∧ f = .refusing (m k) := by
  cases n with
  | none => simp [refuseNegative]
  | some k => by_cases h : k < 0 <;> simp [refuseNegative, h, eq_comm]

theorem refuseNegative_refusing (n : Option Int) (m : Int → Misconfiguration) : Refusing (refuseNegative n m) := by
  intro f hf
  obtain ⟨k, _, _, rfl⟩ := refuseNegative_error_iff.mp hf
  exact ⟨m k, rfl⟩

theorem refuseNegative_escapes_iff {n : Option Int} {m : Int → Misconfiguration} (hm : ∀ k, (m k).shown = [.int k]) :
    Escapes (refuseNegative n m) ↔ ∃ k, n = some k ∧ k < 0 ∧ (Value.int k).holdsLong = true := by
  have hlong (k : Int) : Escapes (α := Unit) (.error (.refusing (m k))) ↔ (Value.int k).holdsLong = true := by
    rw [Escapes.refusing_iff, hm, Value.holdsLongAll_one]
  constructor
  · intro h
    obtain ⟨f, hf, _⟩ := id h
    obtain ⟨k, hk, hneg, rfl⟩ := refuseNegative_error_iff.mp hf
    exact ⟨k, hk, hneg, (hlong k).mp (hf ▸ h)⟩
  · rintro ⟨k, hk, hneg, h⟩
    rw [refuseNegative_error_iff.mpr ⟨k, hk, hneg, rfl⟩]
    exact (hlong k).mpr h

theorem refuseLength_of_single {bytes : Option (List UInt8)} (h : ∀ bs, bytes = some bs → bs.length = 1)
    (m : List UInt8 → Misconfiguration) : refuseLength bytes m = .ok () := by
  cases bytes with
  | none => rfl
  | some bs => exact if_pos (h bs rfl)

theorem refuseLength_not_escapes (bytes : Option (List UInt8)) (m : List UInt8 → Misconfiguration) :
    ¬ Escapes (refuseLength bytes m) := by
  unfold refuseLength
  split
  · split
    · exact Escapes.not_ok ()
    · exact Escapes.not_misconfigured _
  · exact Escapes.not_ok ()

theorem refuseLength_refusing (bytes : Option (List UInt8)) {m : List UInt8 → Misconfiguration}
    (hm : ∀ bs, (m bs).shown = []) : Refusing (refuseLength bytes m) := by
  unfold refuseLength
  split
  · split
    · exact .ok ()
    · exact .misconfigured (hm _)
  · exact .ok ()

theorem checkProperties_not_escapes (properties : Fields) : ¬ Escapes (checkProperties properties) := by
  induction properties with
  | nil => exact Escapes.not_ok ()
  | cons e rest ih =>
    unfold checkProperties
    split
    · exact ih
    · exact Escapes.not_misconfigured _

theorem checkProperties_refusing (properties : Fields) : Refusing (checkProperties properties) := by
  induction properties with
  | nil => exact .ok ()
  | cons e rest ih =>
    unfold checkProperties
    split
    · exact ih
    · exact .misconfigured rfl

end Settings

/-! ## Unwritable settings -/

namespace Connection

/-- **A connection whose refusal cannot be worded**: what is wrong with it, the first such thing, holds an integer that
    is too long. -/
inductive Unwritable (c : Connection) : Prop where
  | protocol (servers : c.servers.truthy = true) (unknown : isWord securityProtocols c.protocol = false)
      (long : c.protocol.holdsLong = true)
  | mechanism (servers : c.servers.truthy = true) (known : isWord securityProtocols c.protocol = true)
      (asked : startsWith "SASL" c.protocol = true) (unknown : isWord saslMechanisms c.mechanism = false)
      (long : c.mechanism.holdsLong = true)
  | timeout (servers : c.servers.truthy = true) (known : isWord securityProtocols c.protocol = true)
      (mechanism : startsWith "SASL" c.protocol = true → isWord saslMechanisms c.mechanism = true)
      (low : c.metadataTimeout ≤ 0) (long : (Value.int c.metadataTimeout).holdsLong = true)

theorem validate_refusing (c : Connection) : Refusing c.validate := by
  unfold validate refuse
  split
  · exact .refusing _
  split
  · exact .refusing _
  split
  · exact .refusing _
  split
  · exact .refusing _
  · exact .ok ()

/-- **The check of a connection escapes** exactly if its refusal cannot be worded. -/
theorem validate_escapes_iff (c : Connection) : Escapes c.validate ↔ c.Unwritable := by
  unfold validate refuse
  rw [Escapes.refused_or_iff, Escapes.refused_or_iff, Escapes.refused_or_iff, Escapes.refused_or_iff]
  simp only [Misconfiguration.shown, Value.holdsLongAll_one, Bool.not_eq_true', Bool.not_eq_false, Bool.and_eq_true,
    not_and]
  constructor
  · rintro (⟨_, hlong⟩ | ⟨hservers, ⟨hunknown, hlong⟩ | ⟨hknown, ⟨⟨hasked, hunknown⟩, hlong⟩
      | ⟨hmechanism, ⟨hlow, hlong⟩ | ⟨_, hok⟩⟩⟩⟩)
    · cases hlong
    · exact .protocol hservers hunknown hlong
    · exact .mechanism hservers hknown hasked hunknown hlong
    · exact .timeout hservers hknown hmechanism hlow hlong
    · exact absurd hok (Escapes.not_ok ())
  · intro h
    cases h with
    | protocol servers unknown long => exact .inr ⟨servers, .inl ⟨unknown, long⟩⟩
    | mechanism servers known asked unknown long =>
      exact .inr ⟨servers, .inr ⟨known, .inl ⟨⟨asked, unknown⟩, long⟩⟩⟩
    | timeout servers known mechanism low long =>
      exact .inr ⟨servers, .inr ⟨known, .inr ⟨mechanism, .inl ⟨low, long⟩⟩⟩⟩

end Connection

namespace Settings

/-- The checks before the one of the offset. -/
def checkedBefore (s : Settings) : Except Failure Unit := do
  if s.topic = "" then throw (.misconfigured .topicMissing)
  refuseNegative s.partition .negativePartition
  refuseNegative s.count .negativeCount
  refuseLength (some s.delimiter) .delimiterLength
  refuseLength s.keyDelimiter .keyDelimiterLength

/-- The checks after the one of the offset. -/
def checkedAfter (s : Settings) : Except Failure Unit := do
  checkProperties s.properties
  s.connection.validate

theorem validate_eq (s : Settings) :
    s.validate = s.checkedBefore >>= fun _ =>
      (if trimText s.offset = "stored" ∧ s.groupId.truthy = false then
        .error (.misconfigured .storedWithoutGroup)
      else .ok ()) >>= fun _ => s.checkedAfter := by
  unfold validate checkedBefore checkedAfter
  by_cases htopic : s.topic = ""
  · simp only [htopic, if_true]
    rfl
  · simp only [htopic, if_false, bind_assoc]
    by_cases hstored : trimText s.offset = "stored" ∧ s.groupId.truthy = false
    · simp only [hstored]
      rfl
    · simp only [hstored, if_false]
      rfl

/-- Asking for stored offsets passes exactly where a group counts. -/
theorem checkedOffset_ok_iff (s : Settings) :
    (if trimText s.offset = "stored" ∧ s.groupId.truthy = false then
        (.error (.misconfigured .storedWithoutGroup) : Except Failure Unit)
      else .ok ()) = .ok ()
      ↔ (trimText s.offset = "stored" → s.groupId.truthy = true) := by
  by_cases hstored : trimText s.offset = "stored" <;> cases hgroup : s.groupId.truthy <;> simp [hstored]

/-- The check by its parts: what stands before the offset, the offset with the group, and what stands after it. -/
theorem validate_ok_iff (s : Settings) :
    s.validate = .ok () ↔ s.checkedBefore = .ok () ∧ (trimText s.offset = "stored" → s.groupId.truthy = true)
      ∧ s.checkedAfter = .ok () := by
  rw [validate_eq, ← checkedOffset_ok_iff]
  constructor
  · intro h
    obtain ⟨_, hbefore, hrest⟩ := bind_eq_ok_iff.mp h
    obtain ⟨_, hgroup, hafter⟩ := bind_eq_ok_iff.mp hrest
    exact ⟨hbefore, hgroup, hafter⟩
  · rintro ⟨hbefore, hgroup, hafter⟩
    rw [hbefore, ok_bind, hgroup, ok_bind, hafter]

/-- **Settings whose refusal cannot be worded**: what is wrong with them, the first such thing, is a partition or a
    count that is too long, or the refusal of their connection cannot be worded. -/
inductive Unwritable (s : Settings) : Prop where
  | partition {n : Int} (topic : s.topic ≠ "") (named : s.partition = some n) (negative : n < 0)
      (long : (Value.int n).holdsLong = true)
  | count {n : Int} (topic : s.topic ≠ "") (partition : ∀ m, s.partition = some m → 0 ≤ m)
      (named : s.count = some n) (negative : n < 0) (long : (Value.int n).holdsLong = true)
  | connection (before : s.checkedBefore = .ok ()) (group : trimText s.offset = "stored" → s.groupId.truthy = true)
      (properties : checkProperties s.properties = .ok ()) (connection : s.connection.Unwritable)

theorem checkedBefore_escapes_iff (s : Settings) :
    Escapes s.checkedBefore
      ↔ s.topic ≠ "" ∧ ((∃ n, s.partition = some n ∧ n < 0 ∧ (Value.int n).holdsLong = true)
        ∨ (∀ m, s.partition = some m → 0 ≤ m)
          ∧ ∃ n, s.count = some n ∧ n < 0 ∧ (Value.int n).holdsLong = true) := by
  unfold checkedBefore
  by_cases htopic : s.topic = ""
  · simp only [htopic, if_true]
    exact iff_of_false (Escapes.not_misconfigured .topicMissing) fun h => h.1 rfl
  · have hlengths : ¬ Escapes (refuseLength (some s.delimiter) .delimiterLength >>= fun _ =>
        refuseLength s.keyDelimiter .keyDelimiterLength) := by
      rw [Escapes.check_iff]
      rintro (h | ⟨_, h⟩)
      · exact refuseLength_not_escapes _ _ h
      · exact refuseLength_not_escapes _ _ h
    have hcount : Escapes (refuseNegative s.count .negativeCount >>= fun _ =>
        refuseLength (some s.delimiter) .delimiterLength >>= fun _ => refuseLength s.keyDelimiter .keyDelimiterLength)
        ↔ ∃ n, s.count = some n ∧ n < 0 ∧ (Value.int n).holdsLong = true := by
      rw [Escapes.check_iff, refuseNegative_escapes_iff fun _ => rfl]
      exact or_iff_left fun h => hlengths h.2
    simp only [htopic, if_false]
    show Escapes (refuseNegative s.partition .negativePartition >>= fun _ => _) ↔ _
    rw [Escapes.check_iff, hcount, refuseNegative_escapes_iff fun _ => rfl, refuseNegative_ok_iff]
    exact (and_iff_right htopic).symm

theorem checkedAfter_escapes_iff (s : Settings) :
    Escapes s.checkedAfter ↔ checkProperties s.properties = .ok () ∧ s.connection.Unwritable := by
  unfold checkedAfter
  rw [Escapes.check_iff, ← s.connection.validate_escapes_iff]
  exact or_iff_right (checkProperties_not_escapes _)

/-- **The check of settings escapes** exactly if their refusal cannot be worded. -/
theorem validate_escapes_iff (s : Settings) : Escapes s.validate ↔ s.Unwritable := by
  have hoffset : ¬ Escapes (if trimText s.offset = "stored" ∧ s.groupId.truthy = false then
      (.error (.misconfigured .storedWithoutGroup) : Except Failure Unit) else .ok ()) := by
    split
    · exact Escapes.not_misconfigured _
    · exact Escapes.not_ok ()
  rw [validate_eq, Escapes.check_iff, Escapes.check_iff, checkedOffset_ok_iff, or_iff_right hoffset,
    checkedBefore_escapes_iff, checkedAfter_escapes_iff]
  constructor
  · rintro (⟨htopic, ⟨n, hn, hneg, hlong⟩ | ⟨hpartition, n, hn, hneg, hlong⟩⟩ | ⟨hbefore, hgroup, hprops, hconnection⟩)
    · exact .partition htopic hn hneg hlong
    · exact .count htopic hpartition hn hneg hlong
    · exact .connection hbefore hgroup hprops hconnection
  · intro h
    cases h with
    | partition topic named negative long => exact .inl ⟨topic, .inl ⟨_, named, negative, long⟩⟩
    | count topic partition named negative long => exact .inl ⟨topic, .inr ⟨partition, _, named, negative, long⟩⟩
    | connection before group properties connection => exact .inr ⟨before, group, properties, connection⟩

theorem validate_refusing (s : Settings) : Refusing s.validate := by
  have hbefore : Refusing s.checkedBefore := by
    unfold checkedBefore
    by_cases htopic : s.topic = ""
    · simp only [htopic, if_true]
      exact .misconfigured (m := .topicMissing) rfl
    · simp only [htopic, if_false]
      exact (refuseNegative_refusing _ _).bind fun _ => (refuseNegative_refusing _ _).bind fun _ =>
        (refuseLength_refusing _ fun _ => rfl).bind fun _ => refuseLength_refusing _ fun _ => rfl
  have hafter : Refusing s.checkedAfter :=
    (checkProperties_refusing _).bind fun _ => s.connection.validate_refusing
  rw [validate_eq]
  refine hbefore.bind fun _ => .bind ?_ fun _ => hafter
  split
  · exact .misconfigured rfl
  · exact .ok ()

end Settings

end TopicReader
