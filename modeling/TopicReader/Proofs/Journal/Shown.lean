import TopicReader.Journal.Line
import TopicReader.Proofs.Documents
import TopicReader.Proofs.Settings.Escapes

/-!
# `Proofs.Journal.Shown` — what a line of JSON shows of the fields of a record

Fields that must be numbers are made numbers before anything is written, and what is none is shown as null. Two things
are not taken care of: a number that is out of range is refused, and a number that is not finite is kept. Here it is
told for which values either happens, and what all fields together come to.

## Contents
- **Numbers.** `Value.toInt_short`: which integers are short enough to be written out; `Value.toDouble_int`.
- **One field.** `Line.Unfit` and `Line.fieldValue_storable_iff`: which values a line cannot show;
  `Line.Endless` and `Line.fieldValue_isFinite_iff`: which values are shown as a number that is not finite.
- **All fields.** `Line.given`, `Line.fieldValues_eq` and `Line.fieldValues_storable_iff`; `Line.members_eq`.
-/

namespace TopicReader

open TopicReader.Json

/-! ## Numbers -/

namespace Double

theorem roundRatio_ne_nan (negative : Bool) (num den mark : Nat) : roundRatio negative num den ≠ .nan mark := by
  intro h
  unfold roundRatio at h
  dsimp only at h
  split at h
  · cases h
  · split at h
    · split at h <;> cases h
    · split at h <;> cases h

end Double

namespace Value

theorem isNull_iff {v : Value} : v.isNull = true ↔ v = .null := by
  cases v <;> simp [isNull]

theorem holdsLong_bit (b : Bool) : (Value.int (if b then 1 else 0)).holdsLong = false := by
  rw [holdsLong_int_iff]
  cases b <;> decide

/-- **Where the integer of a value is too long**, the value is a number already. -/
theorem toInt_short {v : Value} {n : Int} (h : v.toInt = .ok n) (hint : ∀ m, v ≠ .int m) (hfloat : ∀ x, v ≠ .float x) :
    (Value.int n).holdsLong = false := by
  have hread {s quoted : String} (h : (Whole.read s).mapError (notInteger 10 quoted) = .ok n) :
      (Value.int n).holdsLong = false := by
    cases hs : Whole.read s with
    | error r =>
      rw [hs] at h
      cases h
    | ok m =>
      rw [hs] at h
      cases h
      exact Whole.read_short hs
  cases v with
  | bool b =>
    cases h
    exact holdsLong_bit b
  | int m => exact absurd rfl (hint m)
  | float x => exact absurd rfl (hfloat x)
  | text s => exact hread h
  | bytes growable bs => exact hread h
  | _ => cases h

theorem toInt_float_iff {x : Double} {n : Int} : (Value.float x).toInt = .ok n ↔ x.toInt? = some n := by
  cases x with
  | nan mark => exact iff_of_false (fun h => nomatch h) fun h => nomatch h
  | infinite negative => exact iff_of_false (fun h => nomatch h) fun h => nomatch h
  | finite negative m e =>
    constructor
    · intro h
      cases h
      rfl
    · intro h
      cases h
      rfl

/-- **An integer is made a binary64 number** if it is within their range. -/
theorem toDouble_int (n : Int) : (Value.int n).toDouble
    = if (Double.ofInt n).isFinite then .ok (Double.ofInt n)
      else .error (.mishap .outOfRange "int too large to convert to float") := by
  rw [toDouble]
  cases hn : Double.ofInt n with
  | nan mark => exact absurd hn (Double.roundRatio_ne_nan _ _ _ mark)
  | infinite negative => rfl
  | finite negative m e => rfl

/-- What is no binary64 number, and no integer, is of the wrong kind or has the wrong value. -/
theorem toDouble_refused {v : Value} (hint : ∀ n, v ≠ .int n) {f : Failure} (h : v.toDouble = .error f) :
    ∃ t, f = .mishap .wrongValue t ∨ f = .mishap .wrongKind t := by
  unfold toDouble at h
  split at h
  · cases h
  · exact absurd rfl (hint _)
  · cases h
  · split at h
    · cases h
    · cases h
      exact ⟨_, .inl rfl⟩
  · split at h
    · cases h
    · cases h
      exact ⟨_, .inl rfl⟩
  · cases h
    exact ⟨_, .inr rfl⟩

end Value

namespace Line

/-! ## One field -/

variable {kind : Option NumberKind} {v w : Value}

/-- **Which values a line cannot show** in a field. -/
inductive Unfit : Option NumberKind → Value → Prop where
  | unstorable {v : Value} (refused : v.storable = false) : Unfit none v
  | long {n : Int} (isLong : (Value.int n).holdsLong = true) : Unfit (some .whole) (.int n)
  | infinite (negative : Bool) : Unfit (some .whole) (.float (.infinite negative))
  | longPart {x : Double} {n : Int} (part : x.toInt? = some n) (isLong : (Value.int n).holdsLong = true) :
      Unfit (some .whole) (.float x)
  | far {n : Int} (outOfRange : (Double.ofInt n).isFinite = false) : Unfit (some .real) (.int n)

theorem numberOrNull_ok {α : Type} (make : α → Value) (x : α) : numberOrNull make (.ok x) = .ok (make x) := rfl

theorem numberOrNull_refused {α : Type} (make : α → Value) {f : Failure}
    (h : ∃ t, f = .mishap .wrongValue t ∨ f = .mishap .wrongKind t) : numberOrNull make (.error f) = .ok .null := by
  obtain ⟨t, rfl | rfl⟩ := h <;> rfl

/-- What comes of a number: itself, or null. -/
theorem numberOrNull_cases {α : Type} {make : α → Value} {r : Except Failure α} (h : numberOrNull make r = .ok w) :
    w = .null ∧ (∀ x, r ≠ .ok x) ∨ ∃ x, r = .ok x ∧ w = make x := by
  unfold numberOrNull at h
  split at h
  · cases h
    exact .inr ⟨_, rfl, rfl⟩
  · cases h
    exact .inl ⟨rfl, fun _ h => nomatch h⟩
  · cases h
    exact .inl ⟨rfl, fun _ h => nomatch h⟩
  · cases h

/-- **A number or null** is what a field that must be a number is shown as. -/
theorem fieldValue_number {number : NumberKind} (h : fieldValue (some number) v = .ok w) :
    w = .null ∨ (∃ n, w = .int n) ∨ ∃ x, w = .float x := by
  cases number with
  | whole =>
    rcases numberOrNull_cases h with ⟨rfl, -⟩ | ⟨n, -, rfl⟩
    · exact .inl rfl
    · exact .inr (.inl ⟨n, rfl⟩)
  | real =>
    rcases numberOrNull_cases h with ⟨rfl, -⟩ | ⟨x, -, rfl⟩
    · exact .inl rfl
    · exact .inr (.inr ⟨x, rfl⟩)

theorem storable_int_iff (n : Int) : (Value.int n).storable = true ↔ (Value.int n).holdsLong = false := by
  rw [Value.storable, Bool.not_eq_true']

/-- What makes a value unfit for a field that must be an integer: the integer is too long, or there is none since the
    value is infinite. -/
theorem unfit_whole_iff (v : Value) : Unfit (some .whole) v
    ↔ (∃ n, v.toInt = .ok n ∧ (Value.int n).holdsLong = true) ∨ ∃ negative, v = .float (.infinite negative) := by
  constructor
  · intro h
    cases h with
    | long isLong => exact .inl ⟨_, rfl, isLong⟩
    | infinite negative => exact .inr ⟨negative, rfl⟩
    | longPart part isLong => exact .inl ⟨_, Value.toInt_float_iff.mpr part, isLong⟩
  · rintro (⟨n, hn, isLong⟩ | ⟨negative, rfl⟩)
    · cases v with
      | int m =>
        cases hn
        exact .long isLong
      | float x => exact .longPart (Value.toInt_float_iff.mp hn) isLong
      | _ =>
        -- What is read from a text is within the limit for reading, which is the one for writing.
        have hshort := Value.toInt_short hn (fun _ h => nomatch h) fun _ h => nomatch h
        exact absurd (hshort.symm.trans isLong) Bool.false_ne_true
    · exact .infinite negative

/-- **A field that must be an integer** can be shown unless it is a number that is too long, or infinite. -/
theorem whole_storable_iff (v : Value) :
    (∃ w, fieldValue (some .whole) v = .ok w ∧ w.storable = true) ↔ ¬ Unfit (some .whole) v := by
  rw [unfit_whole_iff, not_or]
  cases hv : v.toInt with
  | ok n =>
    have hvalue : fieldValue (some .whole) v = .ok (.int n) := by rw [fieldValue, hv, numberOrNull_ok]
    rw [hvalue]
    constructor
    · rintro ⟨w, hw, hstorable⟩
      cases hw
      have hshort := (storable_int_iff n).mp hstorable
      refine ⟨?_, ?_⟩
      · rintro ⟨m, hm, isLong⟩
        cases hm
        exact Bool.false_ne_true (hshort.symm.trans isLong)
      · rintro ⟨negative, rfl⟩
        cases hv
    · rintro ⟨hshort, -⟩
      exact ⟨_, rfl, (storable_int_iff n).mpr (eq_false_of_ne_true fun isLong => hshort ⟨n, rfl, isLong⟩)⟩
  | error f =>
    by_cases hinfinite : ∃ negative, v = .float (.infinite negative)
    · refine iff_of_false ?_ fun hfit => hfit.2 hinfinite
      obtain ⟨negative, rfl⟩ := hinfinite
      rintro ⟨w, hw, -⟩
      cases hw
    · have hvalue : fieldValue (some .whole) v = .ok .null := by
        rw [fieldValue, hv, numberOrNull_refused _ (Value.toInt_refused hinfinite hv)]
      have hnone : ¬ ∃ n, (.error f : Except Failure Int) = .ok n ∧ (Value.int n).holdsLong = true := by
        rintro ⟨n, hn, -⟩
        cases hn
      exact iff_of_true ⟨.null, hvalue, by rw [Value.storable]⟩ ⟨hnone, hinfinite⟩

/-- **A field that must be a number** can be shown unless it is an integer beyond all binary64 numbers. -/
theorem real_storable_iff (v : Value) :
    (∃ w, fieldValue (some .real) v = .ok w ∧ w.storable = true) ↔ ¬ Unfit (some .real) v := by
  by_cases hint : ∃ n, v = .int n
  · obtain ⟨n, rfl⟩ := hint
    rw [fieldValue, Value.toDouble_int]
    by_cases hfinite : (Double.ofInt n).isFinite = true
    · rw [if_pos hfinite, numberOrNull_ok]
      refine iff_of_true ⟨_, rfl, by rw [Value.storable]⟩ fun hunfit => ?_
      cases hunfit with
      | far outOfRange => exact Bool.false_ne_true (outOfRange.symm.trans hfinite)
    · rw [if_neg hfinite]
      refine iff_of_false ?_ (not_not_intro (.far (eq_false_of_ne_true hfinite)))
      rintro ⟨w, hw, -⟩
      cases hw
  · have hfit : ¬ Unfit (some .real) v := fun hunfit => by
      cases hunfit with
      | @far n outOfRange => exact hint ⟨n, rfl⟩
    refine iff_of_true ?_ hfit
    cases hv : v.toDouble with
    | ok x => exact ⟨.float x, by rw [fieldValue, hv, numberOrNull_ok], by rw [Value.storable]⟩
    | error f =>
      have hrefused := Value.toDouble_refused (fun n hn => hint ⟨n, hn⟩) hv
      exact ⟨.null, by rw [fieldValue, hv, numberOrNull_refused _ hrefused], by rw [Value.storable]⟩

/-- **Which values a line can show** in a field. -/
theorem fieldValue_storable_iff (kind : Option NumberKind) (v : Value) :
    (∃ w, fieldValue kind v = .ok w ∧ w.storable = true) ↔ ¬ Unfit kind v := by
  match kind with
  | none =>
    constructor
    · rintro ⟨w, hw, hstorable⟩ (⟨refused⟩)
      cases hw
      exact Bool.false_ne_true (refused.symm.trans hstorable)
    · intro hfit
      exact ⟨v, rfl, eq_true_of_ne_false fun refused => hfit (.unstorable refused)⟩
  | some .whole => exact whole_storable_iff v
  | some .real => exact real_storable_iff v

/-- **Which values are shown with a number that is not finite.** -/
inductive Endless : Option NumberKind → Value → Prop where
  | kept {v : Value} (endless : v.isFinite = false) : Endless none v
  | made {v : Value} {x : Double} (number : v.toDouble = .ok x) (endless : x.isFinite = false) : Endless (some .real) v

/-- **Whether what a line shows is finite** is told by the value of the field. -/
theorem fieldValue_isFinite_iff (h : fieldValue kind v = .ok w) : w.isFinite = true ↔ ¬ Endless kind v := by
  match kind with
  | none =>
    cases h
    constructor
    · rintro hfinite (⟨endless⟩)
      exact Bool.false_ne_true (endless.symm.trans hfinite)
    · exact fun hnot => eq_true_of_ne_false fun endless => hnot (.kept endless)
  | some .whole =>
    have hfinite : w.isFinite = true := by
      rcases numberOrNull_cases h with ⟨rfl, -⟩ | ⟨n, -, rfl⟩ <;> rw [Value.isFinite]
    exact iff_of_true hfinite fun hendless => nomatch hendless
  | some .real =>
    rcases numberOrNull_cases h with ⟨rfl, hnone⟩ | ⟨x, hx, rfl⟩
    · refine iff_of_true (by rw [Value.isFinite]) ?_
      rintro (_ | ⟨number, endless⟩)
      exact hnone _ number
    · rw [Value.isFinite]
      constructor
      · rintro hfinite (_ | ⟨number, endless⟩)
        rw [hx] at number
        cases number
        exact Bool.false_ne_true (endless.symm.trans hfinite)
      · exact fun hnot => eq_true_of_ne_false fun endless => hnot (.made hx endless)

/-! ## All fields -/

/-- A field that a line shows: its name, how it is read, and its value. -/
structure Given where
  name : String
  kind : Option NumberKind
  value : Value

/-- What a line shows of a field. -/
def Given.read (g : Given) : Except Failure (String × Value) := (fieldValue g.kind g.value).map (g.name, ·)

/-- The fields that a line shows: those that are there and not null. -/
def given (fields : Fields) (shown : List (String × Option NumberKind)) : List Given :=
  shown.filterMap fun s => (fields.get? s.1).bind fun v => if v.isNull then none else some ⟨s.1, s.2, v⟩

theorem mem_given_iff {fields : Fields} {shown : List (String × Option NumberKind)} {g : Given} :
    g ∈ given fields shown ↔ (g.name, g.kind) ∈ shown ∧ fields.get? g.name = some g.value ∧ g.value.isNull = false := by
  unfold given
  rw [List.mem_filterMap]
  constructor
  · rintro ⟨s, hs, h⟩
    obtain ⟨v, hv, h⟩ := Option.bind_eq_some_iff.mp h
    by_cases hnull : v.isNull = true
    · rw [if_pos hnull] at h
      cases h
    · rw [if_neg hnull] at h
      cases h
      exact ⟨hs, hv, eq_false_of_ne_true hnull⟩
  · rintro ⟨hs, hv, hnull⟩
    refine ⟨_, hs, ?_⟩
    dsimp only
    rw [hv, Option.bind_some, if_neg (by rw [hnull]; exact Bool.false_ne_true)]

/-- **The fields are read in turn**, as far as they are there. -/
theorem fieldValues_eq (fields : Fields) (shown : List (String × Option NumberKind)) :
    fieldValues fields shown = Value.inTurn ((given fields shown).map Given.read) := by
  have hread (name : String) (kind : Option NumberKind) (v : Value) (r : Except Failure Fields) :
      (do return (name, ← fieldValue kind v) :: (← r)) = (do return (← Given.read ⟨name, kind, v⟩) :: (← r)) := by
    rw [Given.read]
    cases fieldValue kind v <;> rfl
  induction shown with
  | nil => rfl
  | cons s rest ih =>
    obtain ⟨name, kind⟩ := s
    rw [fieldValues, given, List.filterMap_cons]
    rw [given] at ih
    dsimp only
    split
    · rename_i hnone
      rw [hnone]
      exact ih
    · rename_i hnull
      rw [hnull]
      exact ih
    · rename_i v hnull hv
      have hthere : ¬ v.isNull = true := fun h => hnull (Value.isNull_iff.mp h)
      rw [hv, Option.bind_some, if_neg hthere, List.map_cons, Value.inTurn, ← ih]
      exact hread name kind v _

/-- **Members are made in turn**, one of each field. -/
theorem members_eq (fields : Fields) : members fields = Value.inTurn (fields.map fun f => f.2.toJson.map (f.1, ·)) := by
  induction fields with
  | nil => rfl
  | cons f rest ih =>
    rw [members, List.map_cons, Value.inTurn, ih]
    cases f.2.toJson <;> rfl

/-- What is made in turn is what the steps come to. -/
theorem mem_of_inTurn {α β : Type} {step : α → Except Failure β} {xs : List α} {ys : List β}
    (h : Value.inTurn (xs.map step) = .ok ys) (y : β) : y ∈ ys ↔ ∃ x ∈ xs, step x = .ok y := by
  have hsteps := Value.inTurn_eq_ok_iff.mp h
  have hmem : (.ok y : Except Failure β) ∈ ys.map .ok ↔ y ∈ ys :=
    List.mem_map_of_injective fun _ _ h => Except.ok.inj h
  rw [← hmem, ← hsteps, List.mem_map]

theorem members_ok_iff (fields : Fields) : (∃ ms, members fields = .ok ms) ↔ ∀ f ∈ fields, f.2.storable = true := by
  rw [members_eq, Value.inTurn_ok_iff, List.forall_mem_map]
  refine forall₂_congr fun f _ => ?_
  rw [exists_map_ok_iff, Value.toJson_ok_iff]

theorem mem_members_iff {fields : Fields} {ms : List (String × Json)} (h : members fields = .ok ms) {name : String}
    {j : Json} : (name, j) ∈ ms ↔ ∃ v, (name, v) ∈ fields ∧ v.toJson = .ok j := by
  rw [members_eq] at h
  rw [mem_of_inTurn h]
  constructor
  · rintro ⟨f, hf, hj⟩
    obtain ⟨k, hk, heq⟩ := map_eq_ok_iff.mp hj
    cases heq
    exact ⟨f.2, hf, hk⟩
  · rintro ⟨v, hv, hj⟩
    exact ⟨(name, v), hv, map_eq_ok_iff.mpr ⟨j, hj, rfl⟩⟩

/-- **The numbers of members** are finite exactly if those of the fields are. -/
theorem isFinite_members_iff {fields : Fields} {ms : List (String × Json)} (h : members fields = .ok ms) :
    isFiniteMembers ms = true ↔ ∀ f ∈ fields, f.2.isFinite = true := by
  rw [isFiniteMembers_eq_all, List.all_eq_true]
  constructor
  · intro hall f hf
    obtain ⟨j, hj⟩ : ∃ j, f.2.toJson = .ok j :=
      (Value.toJson_ok_iff f.2).mpr ((members_ok_iff fields).mp ⟨ms, h⟩ f hf)
    rw [← Value.toJson_isFinite hj]
    exact hall (f.1, j) ((mem_members_iff h).mpr ⟨f.2, hf, hj⟩)
  · rintro hall ⟨name, j⟩ hm
    obtain ⟨v, hv, hj⟩ := (mem_members_iff h).mp hm
    show j.isFinite = true
    rw [Value.toJson_isFinite hj]
    exact hall (name, v) hv

theorem mem_fieldValues_iff {fields values : Fields} {shown : List (String × Option NumberKind)}
    (h : fieldValues fields shown = .ok values) {name : String} {w : Value} :
    (name, w) ∈ values ↔ ∃ g ∈ given fields shown, g.name = name ∧ fieldValue g.kind g.value = .ok w := by
  rw [fieldValues_eq] at h
  rw [mem_of_inTurn h]
  refine exists_congr fun g => and_congr_right fun _ => ?_
  rw [Given.read, map_eq_ok_iff]
  constructor
  · rintro ⟨v, hv, heq⟩
    cases heq
    exact ⟨rfl, hv⟩
  · rintro ⟨rfl, hv⟩
    exact ⟨w, hv, rfl⟩

/-- **Every field that is there has a value in the line**, if the fields can be read. -/
theorem exists_fieldValue {fields values : Fields} {shown : List (String × Option NumberKind)}
    (h : fieldValues fields shown = .ok values) {g : Given} (hg : g ∈ given fields shown) :
    ∃ w, fieldValue g.kind g.value = .ok w ∧ (g.name, w) ∈ values := by
  have hread := h
  rw [fieldValues_eq] at hread
  obtain ⟨f, hf⟩ := Value.inTurn_ok_iff.mp ⟨values, hread⟩ _ (List.mem_map_of_mem hg)
  obtain ⟨w, hw, -⟩ := map_eq_ok_iff.mp hf
  exact ⟨w, hw, (mem_fieldValues_iff h).mpr ⟨g, hg, rfl, hw⟩⟩

/-- **All fields can be shown** if each of them can. -/
theorem fieldValues_storable_iff (fields : Fields) (shown : List (String × Option NumberKind)) :
    (∃ values, fieldValues fields shown = .ok values ∧ ∀ f ∈ values, f.2.storable = true)
      ↔ ∀ g ∈ given fields shown, ¬ Unfit g.kind g.value := by
  simp only [← fieldValue_storable_iff]
  constructor
  · rintro ⟨values, hvalues, hstorable⟩ g hg
    obtain ⟨w, hw, hmem⟩ := exists_fieldValue hvalues hg
    exact ⟨w, hw, hstorable _ hmem⟩
  · intro hall
    obtain ⟨values, hvalues⟩ : ∃ values, fieldValues fields shown = .ok values := by
      rw [fieldValues_eq, Value.inTurn_ok_iff, List.forall_mem_map]
      intro g hg
      obtain ⟨w, hw, -⟩ := hall g hg
      exact ⟨_, map_eq_ok_iff.mpr ⟨w, hw, rfl⟩⟩
    refine ⟨values, hvalues, ?_⟩
    rintro ⟨name, w⟩ hf
    obtain ⟨g, hg, -, hw⟩ := (mem_fieldValues_iff hvalues).mp hf
    obtain ⟨v, hv, hstorable⟩ := hall g hg
    rw [hw] at hv
    cases hv
    exact hstorable

/-- **What a line shows is finite** unless a field is shown with a number that is not. -/
theorem fieldValues_isFinite_iff {fields values : Fields} {shown : List (String × Option NumberKind)}
    (h : fieldValues fields shown = .ok values) :
    (∀ f ∈ values, f.2.isFinite = true) ↔ ∀ g ∈ given fields shown, ¬ Endless g.kind g.value := by
  constructor
  · intro hall g hg
    obtain ⟨w, hw, hmem⟩ := exists_fieldValue h hg
    exact (fieldValue_isFinite_iff hw).mp (hall _ hmem)
  · rintro hall ⟨name, w⟩ hf
    obtain ⟨g, hg, -, hw⟩ := (mem_fieldValues_iff h).mp hf
    exact (fieldValue_isFinite_iff hw).mpr (hall g hg)

end Line

end TopicReader
