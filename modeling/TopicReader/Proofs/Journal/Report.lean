import TopicReader.Journal.Report
import TopicReader.Proofs.Fields

/-!
# `Proofs.Journal.Report` — what becomes of the record of a failure

A failure is reported with the fields that the caller gives, with those of its own context, and with three that are
made up on the way. Names that a record has for itself are left out of the context and of every other record, but not
out of what the caller gives with a failure: there such a name refuses the record. Here it is told when a report is
refused and what the record says under every name otherwise.

## Contents
- **What is said.** `Report.fromContext`, `Report.shownCategory`, and `Report.get?_failureFields`: the fields of a
  record of a failure, name by name.
- **Refusal.** `Report.isTaken_eq`: the names of a record are those that are kept out of it; and
  `Report.admissible_failureFields`: only the caller's names count.
- **The law.** `Report.Tells`, and `Journal.reportFailure_outcome`.
-/

namespace TopicReader

namespace Report

variable {f : Failure} {given : Fields} {name : String}

/-! ## What is said -/

/-- What the context of a failure says under a name: the value that is not null, unless the name is reserved. -/
def fromContext (f : Failure) (name : String) : Option Value :=
  if isReserved name then none else Fields.get? (f.context.filter fun e => !e.2.isNull) name

/-- The category in a record: the caller's if it gives one that is not null, else the failure's if it has one. -/
def shownCategory (f : Failure) (given : Fields) : Option Value :=
  if ((given.get? "error_category").getD .null).isNull then
    (f.category?.map fun c => Value.text c.word).or (given.get? "error_category")
  else given.get? "error_category"

theorem get?_withCategory (f : Failure) (given : Fields) (name : String) :
    (withCategory f given).get? name
      = if name = "error_category" then shownCategory f given else given.get? name := by
  unfold withCategory shownCategory
  by_cases hnull : ((given.get? "error_category").getD .null).isNull = true
  · rw [if_pos hnull, if_pos hnull]
    cases f.category? with
    | none => by_cases hname : name = "error_category" <;> simp [hname]
    | some c =>
      dsimp only [Option.map_some, Option.some_or]
      rw [Fields.get?_put]
      by_cases hname : name = "error_category"
      · rw [if_pos hname.symm, if_pos hname]
      · rw [if_neg (Ne.symm hname), if_neg hname]
  · rw [if_neg hnull, if_neg hnull]
    by_cases hname : name = "error_category" <;> simp [hname]

/-- What the caller gives wins over the context, and the context adds the rest. -/
theorem get?_withContext_eq (f : Failure) (given : Fields) (name : String) :
    (withContext f given).get? name = (given.get? name).or (fromContext f name) := by
  unfold withContext fromContext
  induction f.context generalizing given with
  | nil =>
    have hempty : Fields.get? ([].filter fun e : String × Value => !e.2.isNull) name = none := rfl
    rw [List.foldl_nil, hempty, ite_self, Option.or_none]
  | cons e rest ih =>
    rw [List.foldl_cons, ih]
    by_cases hnull : e.2.isNull = true
    · simp only [hnull, Bool.or_true, if_true, Bool.not_true, List.filter_cons, Bool.false_eq_true, if_false]
    · have hkept : (e :: rest).filter (fun e => !e.2.isNull) = e :: rest.filter (fun e => !e.2.isNull) := by
        simp [hnull]
      rw [hkept, Fields.get?_cons]
      by_cases hreserved : isReserved e.1 = true
      · have hskip : (if isReserved e.1 || e.2.isNull then given else given.putNew e.1 e.2) = given := by
          rw [hreserved, Bool.true_or, if_pos rfl]
        rw [hskip]
        by_cases hname : e.1 = name
        · rw [← hname, hreserved, if_pos rfl, if_pos rfl]
        · rw [if_neg hname]
      · have htake : (if isReserved e.1 || e.2.isNull then given else given.putNew e.1 e.2)
            = given.putNew e.1 e.2 := by
          rw [if_neg]
          simp [hreserved, hnull]
        rw [htake, Fields.get?_putNew_eq, Option.or_assoc]
        by_cases hname : e.1 = name
        · rw [← hname, if_neg hreserved, if_neg hreserved, if_pos rfl, if_pos rfl, Option.some_or]
        · rw [if_neg hname, if_neg hname, Option.none_or]

/-- **What a record of a failure says** under a name. -/
theorem get?_failureFields (f : Failure) (given : Fields) (name : String) :
    (failureFields f given).get? name
      = if name = "error_message" then some (.text (clippedText f))
        else ((if name = "error_category" then shownCategory f given else given.get? name).or (fromContext f name)).or
          (if name = "error_type" then some (.text f.name) else none) := by
  unfold failureFields
  rw [Fields.get?_putNew_eq, Fields.get?_put, get?_withContext_eq, get?_withCategory]
  by_cases hmessage : name = "error_message"
  · rw [if_pos hmessage, if_pos hmessage.symm, Option.some_or]
  · rw [if_neg hmessage, if_neg (Ne.symm hmessage)]
    by_cases htype : name = "error_type"
    · rw [if_pos htype, if_pos htype.symm]
    · rw [if_neg htype, if_neg (Ne.symm htype)]

/-! ## Refusal -/

/-- **The names of a record** are those that are kept out of it, in another order. -/
theorem isTaken_eq (name : String) : isTaken name = isReserved name :=
  (by decide : recordNames.Perm reservedNames).contains_eq

/-- A record is refused if one of its fields uses a reserved name, for the first of these. -/
theorem admissible_eq_ok_iff {fields : Fields} :
    admissible fields = .ok () ↔ ∀ name ∈ fields.names, isReserved name = false := by
  unfold admissible
  simp only [isTaken_eq]
  cases hfind : fields.find? fun e => isReserved e.1 with
  | none =>
    have hnone := List.find?_eq_none.mp hfind
    refine iff_of_true rfl fun name hname => ?_
    obtain ⟨e, he, rfl⟩ := List.mem_map.mp hname
    exact Bool.not_eq_true _ ▸ hnone e he
  | some e =>
    refine iff_of_false (fun h => by cases h) fun hall => ?_
    have hreserved := List.find?_some hfind
    rw [hall e.1 (List.mem_map_of_mem (List.mem_of_find?_eq_some hfind))] at hreserved
    cases hreserved

theorem admissible_of_reserved {fields : Fields} (h : ∃ name ∈ fields.names, isReserved name = true) :
    ∃ text, admissible fields = .error (.mishap .missingKey text) := by
  unfold admissible
  simp only [isTaken_eq]
  cases hfind : fields.find? fun e => isReserved e.1 with
  | some e => exact ⟨_, rfl⟩
  | none =>
    obtain ⟨name, hname, hreserved⟩ := h
    obtain ⟨e, he, rfl⟩ := List.mem_map.mp hname
    exact absurd hreserved (List.find?_eq_none.mp hfind e he)

/-- Under a reserved name a record of a failure says what the caller says. -/
theorem get?_failureFields_reserved (h : isReserved name = true) :
    (failureFields f given).get? name = given.get? name := by
  have hplain : ∀ plain, isReserved plain = false → name ≠ plain := by
    rintro plain hplain rfl
    rw [h] at hplain
    cases hplain
  rw [get?_failureFields, if_neg (hplain _ (by decide)), if_neg (hplain _ (by decide)),
    if_neg (hplain _ (by decide)), fromContext, if_pos h, Option.or_none, Option.or_none]

/-- **Only the caller's names** can refuse a record of a failure. -/
theorem mem_names_failureFields_reserved (h : isReserved name = true) :
    name ∈ (failureFields f given).names ↔ name ∈ given.names := by
  rw [Fields.mem_names_iff, Fields.mem_names_iff, get?_failureFields_reserved h]

theorem admissible_failureFields (plain : ∀ name ∈ given.names, isReserved name = false) :
    admissible (failureFields f given) = .ok () := by
  rw [admissible_eq_ok_iff]
  intro name hname
  cases hreserved : isReserved name with
  | false => rfl
  | true =>
    have hgiven := plain name ((mem_names_failureFields_reserved hreserved).mp hname)
    rw [hreserved] at hgiven
    cases hgiven

/-! ## The law -/

/-- The text of a failure in a record, and how long it is. -/
theorem clippedText_of_short (h : f.text.length ≤ textLimit) : clippedText f = f.text := by
  unfold clippedText
  rw [if_neg]
  rw [String.length_toList]
  exact Nat.not_lt.mpr h

theorem clippedText_of_long (h : textLimit < f.text.length) :
    (clippedText f).toList = f.text.toList.take textLimit ++ ['.', '.', '.'] := by
  unfold clippedText
  rw [if_pos, String.toList_ofList]
  · rfl
  · rwa [String.length_toList]

theorem clippedText_length (f : Failure) : (clippedText f).length ≤ textLimit + 3 := by
  by_cases h : f.text.length ≤ textLimit
  · rw [clippedText_of_short h]
    omega
  · have hlong : textLimit < f.text.length := Nat.lt_of_not_le h
    rw [← String.length_toList, clippedText_of_long hlong, List.length_append, List.length_take]
    have hmin : min textLimit f.text.toList.length ≤ textLimit := Nat.min_le_left _ _
    exact Nat.add_le_add_right hmin 3

/-- **What the fields of a record of a failure tell**, given what the caller gives. -/
structure Tells (f : Failure) (given shown : Fields) : Prop where
  /-- The caller wins. The text of the failure is not the caller's to give, and a null category gives way. -/
  wins : ∀ name v, given.get? name = some v → name ≠ "error_message" →
    (name = "error_category" → v.isNull = false ∨ f.category? = none) → shown.get? name = some v
  /-- Where the caller is silent, the context is told, but neither nulls nor what has a reserved name. -/
  context : ∀ name, given.get? name = none → name ≠ "error_message" → name ≠ "error_category" → name ≠ "error_type" →
    shown.get? name = fromContext f name
  /-- The category of a classified failure, unless the caller gives one. -/
  category : ∀ c, f.category? = some c → ((given.get? "error_category").getD .null).isNull = true →
    shown.get? "error_category" = some (.text c.word)
  /-- The name of a failure, unless the caller or the context gives another one. -/
  named : given.get? "error_type" = none →
    shown.get? "error_type" = some ((fromContext f "error_type").getD (.text f.name))
  text : shown.get? "error_message" = some (.text (clippedText f))
  /-- A short text is told in full, and of a long one the start. -/
  full : f.text.length ≤ textLimit → clippedText f = f.text
  start : textLimit < f.text.length →
    (clippedText f).toList = f.text.toList.take textLimit ++ ['.', '.', '.']
  short : (clippedText f).length ≤ 503

theorem failureFields_tells (f : Failure) (given : Fields) : Tells f given (failureFields f given) where
  wins := by
    intro name v hgiven hmessage hcategory
    rw [get?_failureFields, if_neg hmessage]
    by_cases hname : name = "error_category"
    · subst hname
      have hshown : shownCategory f given = some v := by
        unfold shownCategory
        rw [hgiven, Option.getD_some]
        rcases hcategory rfl with hnull | hnone
        · rw [hnull, if_neg Bool.false_ne_true]
        · rw [hnone, Option.map_none, Option.none_or, ite_self]
      rw [if_pos rfl, hshown, Option.some_or, Option.some_or]
    · rw [if_neg hname, hgiven, Option.some_or, Option.some_or]
  context := by
    intro name hgiven hmessage hcategory htype
    rw [get?_failureFields, if_neg hmessage, if_neg hcategory, if_neg htype, hgiven, Option.none_or, Option.or_none]
  category := by
    intro c hc hnull
    have hshown : shownCategory f given = some (.text c.word) := by
      rw [shownCategory, if_pos hnull, hc]
      rfl
    rw [get?_failureFields, if_neg (by decide), if_pos rfl, hshown, Option.some_or, Option.some_or]
  named := by
    intro hgiven
    rw [get?_failureFields, if_neg (by decide), if_neg (by decide), if_pos rfl, hgiven, Option.none_or]
    cases fromContext f "error_type" <;> rfl
  text := by rw [get?_failureFields, if_pos rfl]
  full := clippedText_of_short
  start := clippedText_of_long
  short := clippedText_length f

end Report

namespace Journal

open Report

variable {threshold level : Level} {origin message : String} {given : Fields} {detailed : Bool} {f : Failure}

/-- A report whose names are all plain is a record in the journal. -/
theorem reportFailure_of_plain (j : Journal) (enabled : threshold ≤ level)
    (plain : ∀ name ∈ given.names, isReserved name = false) :
    j.reportFailure threshold level origin message given detailed f
      = .ok (j.writeFailure level origin message given detailed f) := by
  rw [reportFailure, if_neg (Int.not_lt.mpr enabled), admissible_failureFields plain]
  rfl

/-- A report with a reserved name is refused. -/
theorem reportFailure_of_reserved (j : Journal) (enabled : threshold ≤ level)
    (reserved : ∃ name ∈ given.names, isReserved name = true) :
    ∃ text, j.reportFailure threshold level origin message given detailed f = .error (.mishap .missingKey text) := by
  obtain ⟨name, hname, hreserved⟩ := reserved
  have hshown : name ∈ (failureFields f given).names := (mem_names_failureFields_reserved hreserved).mpr hname
  obtain ⟨text, htext⟩ := admissible_of_reserved ⟨name, hshown, hreserved⟩
  refine ⟨text, ?_⟩
  rw [reportFailure, if_neg (Int.not_lt.mpr enabled), htext]
  rfl

/-- **A report of a failure** is passed over below the threshold. Otherwise it is refused exactly if the caller gives a
    reserved name, and else it is one record more, at the level, with the message and with the failure where details
    are asked for, whose fields tell what the caller, the context and the failure say. -/
theorem reportFailure_outcome (j : Journal) (threshold level : Level) (origin message : String) (given : Fields)
    (detailed : Bool) (f : Failure) :
    (level < threshold ∧ j.reportFailure threshold level origin message given detailed f = .ok j)
      ∨ (threshold ≤ level ∧ (∃ name ∈ given.names, isReserved name = true)
        ∧ ∃ text, j.reportFailure threshold level origin message given detailed f = .error (.mishap .missingKey text))
      ∨ (threshold ≤ level ∧ (∀ name ∈ given.names, isReserved name = false)
        ∧ ∃ e,
          j.reportFailure threshold level origin message given detailed f = .ok { j with entries := e :: j.entries }
          ∧ e.level = level ∧ e.origin = origin ∧ e.message = message
          ∧ e.cause = (if detailed then .failure f else .absent) ∧ Tells f given e.fields) := by
  by_cases hlevel : level < threshold
  · exact .inl ⟨hlevel, if_pos hlevel⟩
  have enabled : threshold ≤ level := Int.not_lt.mp hlevel
  by_cases hplain : ∀ name ∈ given.names, isReserved name = false
  · exact .inr (.inr ⟨enabled, hplain, _, reportFailure_of_plain j enabled hplain, rfl, rfl, rfl, rfl,
      failureFields_tells f given⟩)
  · have hreserved : ∃ name ∈ given.names, isReserved name = true := by simpa using hplain
    exact .inr (.inl ⟨enabled, hreserved, reportFailure_of_reserved j enabled hreserved⟩)

/-- A field of the caller that is called as the logger is: the failure is not recorded, and another one is raised. -/
theorem reportFailure_refused_for_name :
    empty.reportFailure 1 Level.error "test.logger" "failed" [("name", .text "x")] true
        (.foreign (.plain "ValueError" "bad"))
      = .error (.mishap .missingKey "\"Attempt to overwrite 'name' in LogRecord\"") := by
  rfl

end Journal

end TopicReader
