import TopicReader.Proofs.Settings.Loading

/-!
# `Proofs.Settings.Merging` — a connection after a file had its say

A file replaces the settings of a connection that it names and leaves the others alone. Setting by setting that is one
equation; whether a file is refused depends on the file alone, never on the connection that was there before.

## Contents
- **One setting.** `Setting.settled`: what a setting holds after it was given a value, and `Setting.Takes`.
- **All settings.** `Connection.ext_get`, `Connection.setAll_get`, `Connection.setAll_ok_iff`, and
  `Connection.Refuses`: the first value that cannot be taken.
- **The law.** `Connection.merged_get`, and `Connection.merged_ok_iff`.
-/

namespace TopicReader

/-! ## One setting -/

namespace Setting

/-- What a setting holds after it was given a value. -/
def settled (s : Setting) (v : Value) : Value :=
  if s.isTimeout then
    match v.toInt with
    | .ok n => .int n
    | .error _ => v
  else v

/-- A setting takes every value, except for timeouts, which must be integers. -/
def Takes (s : Setting) (v : Value) : Prop := s.isTimeout = true → ∃ n, v.toInt = .ok n

theorem nodup_all : all.Nodup := by decide

theorem mem_all (s : Setting) : s ∈ all := by cases s <;> decide

theorem name_injective : Function.Injective name := by
  intro s t h
  cases s <;> cases t <;> first | rfl | exact absurd h (by decide)

end Setting

namespace Connection

/-- The settings are all there is to a connection. -/
theorem ext_get {c d : Connection} (h : ∀ s, c.get s = d.get s) : c = d := by
  cases c
  cases d
  rw [Connection.mk.injEq]
  exact ⟨h .servers, h .protocol, h .mechanism, h .username, h .password, h .authority, h .certificate, h .privateKey,
    Value.int.inj (h .requestTimeout), Value.int.inj (h .metadataTimeout)⟩

theorem timeoutOf_ok_iff {s : Setting} {v : Value} {n : Int} : timeoutOf s v = .ok n ↔ v.toInt = .ok n := by
  unfold timeoutOf
  cases v.toInt with
  | ok m => exact Iff.rfl
  | error f =>
    constructor
    · intro h
      dsimp only at h
      split at h
      · cases h
      · cases h
      · cases h
    · intro h
      cases h

/-- Giving a value to a setting changes that one only. -/
theorem set_get {c d : Connection} {s : Setting} {v : Value} (h : c.set s v = .ok d) (t : Setting) :
    d.get t = if t = s then s.settled v else c.get t := by
  have htimeout {n : Int} (hn : timeoutOf s v = .ok n) (hs : s.isTimeout = true) : s.settled v = .int n := by
    unfold Setting.settled
    rw [if_pos hs, timeoutOf_ok_iff.mp hn]
  cases s with
  | requestTimeout =>
    obtain ⟨n, hn, rfl⟩ := map_eq_ok_iff.mp h
    rw [htimeout hn rfl]
    cases t <;> rfl
  | metadataTimeout =>
    obtain ⟨n, hn, rfl⟩ := map_eq_ok_iff.mp h
    rw [htimeout hn rfl]
    cases t <;> rfl
  | _ =>
    cases h
    cases t <;> rfl

/-- Only a timeout can be refused. -/
theorem set_error_iff {c : Connection} {s : Setting} {v : Value} {f : Failure} :
    c.set s v = .error f ↔ s.isTimeout = true ∧ timeoutOf s v = .error f := by
  cases s with
  | requestTimeout => exact map_eq_error_iff.trans (and_iff_right rfl).symm
  | metadataTimeout => exact map_eq_error_iff.trans (and_iff_right rfl).symm
  | _ => exact ⟨fun h => (nomatch h), fun h => (nomatch h.1)⟩

theorem set_ok_iff {c : Connection} {s : Setting} {v : Value} : (∃ d, c.set s v = .ok d) ↔ s.Takes v := by
  constructor
  · rintro ⟨d, hd⟩ hs
    cases hv : v.toInt with
    | ok n => exact ⟨n, rfl⟩
    | error f =>
      cases ht : timeoutOf s v with
      | ok n =>
        rw [timeoutOf_ok_iff.mp ht] at hv
        cases hv
      | error g =>
        rw [set_error_iff.mpr ⟨hs, ht⟩] at hd
        cases hd
  · intro h
    cases hset : c.set s v with
    | ok d => exact ⟨d, rfl⟩
    | error f =>
      obtain ⟨hs, ht⟩ := set_error_iff.mp hset
      obtain ⟨n, hn⟩ := h hs
      rw [timeoutOf_ok_iff.mpr hn] at ht
      cases ht

/-! ## All settings -/

/-- What a mapping makes of a setting. -/
def given (data : Mapping) (c : Connection) (s : Setting) : Value :=
  ((data.getText? s.name).map s.settled).getD (c.get s)

/-- Every value that a mapping has for some settings can be taken. -/
def AllTake (data : Mapping) (ss : List Setting) : Prop :=
  ∀ s ∈ ss, ∀ v, data.getText? s.name = some v → s.Takes v

theorem setAll_none {data : Mapping} {s : Setting} (h : data.getText? s.name = none) (rest : List Setting)
    (c : Connection) : setAll data (s :: rest) c = setAll data rest c := by
  simp only [setAll, h]

theorem setAll_some {data : Mapping} {s : Setting} {v : Value} (h : data.getText? s.name = some v)
    (rest : List Setting) (c : Connection) :
    setAll data (s :: rest) c = c.set s v >>= setAll data rest := by
  simp only [setAll, h]

/-- Some settings have what the mapping makes of them, and the others are as they were. -/
theorem setAll_get {data : Mapping} {ss : List Setting} (hss : ss.Nodup) {c d : Connection}
    (h : setAll data ss c = .ok d) (t : Setting) :
    d.get t = if t ∈ ss then given data c t else c.get t := by
  induction ss generalizing c with
  | nil =>
    cases h
    rfl
  | cons s rest ih =>
    obtain ⟨hs, hrest⟩ := List.nodup_cons.mp hss
    cases hnamed : data.getText? s.name with
    | none =>
      rw [setAll_none hnamed] at h
      rw [ih hrest h]
      by_cases hts : t = s
      · subst hts
        rw [if_neg hs, if_pos List.mem_cons_self, given, hnamed]
        rfl
      · simp only [List.mem_cons, hts, false_or]
    | some v =>
      rw [setAll_some hnamed] at h
      obtain ⟨e, he, h⟩ := bind_eq_ok_iff.mp h
      rw [ih hrest h]
      by_cases hts : t = s
      · subst hts
        rw [if_neg hs, if_pos List.mem_cons_self, set_get he, if_pos rfl, given, hnamed]
        rfl
      · have hkept : e.get t = c.get t := by rw [set_get he, if_neg hts]
        simp only [List.mem_cons, hts, false_or, given, hkept]

/-- Whether settings can be made depends on the mapping alone. -/
theorem setAll_ok_iff {data : Mapping} {ss : List Setting} {c : Connection} :
    (∃ d, setAll data ss c = .ok d) ↔ AllTake data ss := by
  induction ss generalizing c with
  | nil => exact ⟨fun _ s hs => (nomatch hs), fun _ => ⟨c, rfl⟩⟩
  | cons s rest ih =>
    unfold AllTake
    rw [List.forall_mem_cons]
    cases hnamed : data.getText? s.name with
    | none =>
      rw [setAll_none hnamed, ih]
      exact ⟨fun h => ⟨fun v hv => (nomatch hv), h⟩, fun h => h.2⟩
    | some v =>
      rw [setAll_some hnamed]
      constructor
      · rintro ⟨d, hd⟩
        obtain ⟨e, he, h⟩ := bind_eq_ok_iff.mp hd
        refine ⟨fun w hw => ?_, ih.mp ⟨d, h⟩⟩
        cases hw
        exact set_ok_iff.mp ⟨e, he⟩
      · rintro ⟨hv, hrest⟩
        obtain ⟨e, he⟩ : ∃ e, c.set s v = .ok e := set_ok_iff.mpr (hv v rfl)
        rw [he, ok_bind]
        exact ih.mpr hrest

/-- **The first value that cannot be taken**, and how it fails. -/
inductive Refuses (data : Mapping) (f : Failure) : List Setting → Prop where
  | here {s : Setting} {v : Value} {rest : List Setting} (named : data.getText? s.name = some v)
      (timeout : s.isTimeout = true) (refused : timeoutOf s v = .error f) : Refuses data f (s :: rest)
  | later {s : Setting} {rest : List Setting} (taken : ∀ v, data.getText? s.name = some v → s.Takes v)
      (refused : Refuses data f rest) : Refuses data f (s :: rest)

theorem setAll_error_iff {data : Mapping} {ss : List Setting} {c : Connection} {f : Failure} :
    setAll data ss c = .error f ↔ Refuses data f ss := by
  induction ss generalizing c with
  | nil => exact ⟨fun h => (nomatch h), fun h => (nomatch h)⟩
  | cons s rest ih =>
    cases hnamed : data.getText? s.name with
    | none =>
      rw [setAll_none hnamed, ih]
      constructor
      · intro h
        refine .later (fun v hv => ?_) h
        rw [hnamed] at hv
        cases hv
      · intro h
        cases h with
        | here named =>
          rw [hnamed] at named
          cases named
        | later _ refused => exact refused
    | some v =>
      rw [setAll_some hnamed, bind_eq_error_iff]
      constructor
      · rintro (h | ⟨e, he, h⟩)
        · obtain ⟨htimeout, hf⟩ := set_error_iff.mp h
          exact .here hnamed htimeout hf
        · refine .later (fun w hw => ?_) (ih.mp h)
          rw [hnamed] at hw
          cases hw
          exact set_ok_iff.mp ⟨e, he⟩
      · intro h
        cases h with
        | here named timeout refused =>
          rw [hnamed] at named
          cases named
          exact .inl (set_error_iff.mpr ⟨timeout, refused⟩)
        | later taken refused =>
          obtain ⟨e, he⟩ : ∃ e, c.set s v = .ok e := set_ok_iff.mpr (taken v hnamed)
          exact .inr ⟨e, he, ih.mpr refused⟩

/-! ## The law -/

/-- The keys of a mapping that name no setting. -/
def unknownKeys (data : Mapping) : List Value := data.keys.filter fun k => !isKnown k

theorem merged_eq (c : Connection) (data : Mapping) :
    c.merged data
      = sortValues (unknownKeys data) >>= fun unknown =>
          if unknown.isEmpty then setAll data Setting.all c
          else .error (.refusing (.unknownConnectionSettings unknown)) := rfl

/-- **Whether a mapping can be merged** depends on the mapping alone. -/
theorem merged_ok_iff {c : Connection} {data : Mapping} :
    (∃ d, c.merged data = .ok d) ↔ sortValues (unknownKeys data) = .ok [] ∧ AllTake data Setting.all := by
  rw [merged_eq]
  constructor
  · rintro ⟨d, hd⟩
    obtain ⟨unknown, hunknown, h⟩ := bind_eq_ok_iff.mp hd
    split at h
    · rename_i hempty
      rw [List.isEmpty_iff.mp hempty] at hunknown
      exact ⟨hunknown, setAll_ok_iff.mp ⟨d, h⟩⟩
    · cases h
  · rintro ⟨hunknown, htake⟩
    obtain ⟨d, hd⟩ : ∃ d, setAll data Setting.all c = .ok d := setAll_ok_iff.mpr htake
    rw [hunknown, ok_bind]
    exact ⟨d, hd⟩

/-- **A connection after a mapping was merged**: what the mapping names has its value, everything else is kept. -/
theorem merged_get {c d : Connection} {data : Mapping} (h : c.merged data = .ok d) (s : Setting) :
    d.get s = given data c s := by
  rw [merged_eq] at h
  obtain ⟨unknown, _, h⟩ := bind_eq_ok_iff.mp h
  split at h
  · rw [setAll_get Setting.nodup_all h, if_pos (Setting.mem_all s)]
  · cases h

end Connection

end TopicReader
