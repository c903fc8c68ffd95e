import TopicReader.Proofs.Journal.Shown

/-!
# `Proofs.Journal.Line` — what becomes of a record that is written as a line of JSON

A record whose fields can all be shown becomes one line, and that is JSON with numbers where numbers must be. A number
that is out of range breaks the whole line, and one that is not finite is written as a word that JSON has not. Here it
is told for which records either happens.

## Contents
- **Refused and endless.** `Entry.Breaks` and `Entry.IsEndless`.
- **The document.** `Entry.document_ok_iff`, `Entry.document_exists_iff` and `Entry.document_isFinite_iff`.
- **Names.** `Entry.ownNames`, and `Entry.mem_document_iff`: the members that are made of fields.
- **The line.** `Entry.jsonLine_outcome`.
-/

namespace TopicReader

open TopicReader.Json

namespace Entry

open Line

/-! ## Refused and endless -/

/-- What a line says of the run and of the record at hand. -/
def known (e : Entry) : Fields := runValues e.run ++ e.position.fields

/-- The fields of a record that its line shows. -/
def shown (e : Entry) : List Given := given e.fields shownFields

/-- **A record breaks its line** if something that the line says has no document, or a field cannot be shown. -/
inductive Breaks (e : Entry) : Prop where
  | known {name : String} {v : Value} (isKnown : (name, v) ∈ e.known) (refused : v.storable = false)
  | field {g : Given} (isShown : g ∈ e.shown) (unfit : Unfit g.kind g.value)

/-- **A record is endless** if a number that its line says is not finite. -/
inductive IsEndless (e : Entry) : Prop where
  | known {name : String} {v : Value} (isKnown : (name, v) ∈ e.known) (endless : v.isFinite = false)
  | field {g : Given} (isShown : g ∈ e.shown) (endless : Endless g.kind g.value)

theorem not_breaks_iff (e : Entry) :
    ¬ e.Breaks ↔ (∀ f ∈ e.known, f.2.storable = true) ∧ ∀ g ∈ e.shown, ¬ Unfit g.kind g.value := by
  constructor
  · intro h
    exact ⟨fun f hf => eq_true_of_ne_false fun refused => h (.known hf refused), fun g hg unfit => h (.field hg unfit)⟩
  · rintro ⟨hknown, hshown⟩ (⟨isKnown, refused⟩ | ⟨isShown, unfit⟩)
    · exact Bool.false_ne_true (refused.symm.trans (hknown _ isKnown))
    · exact hshown _ isShown unfit

theorem not_isEndless_iff (e : Entry) :
    ¬ e.IsEndless ↔ (∀ f ∈ e.known, f.2.isFinite = true) ∧ ∀ g ∈ e.shown, ¬ Endless g.kind g.value := by
  constructor
  · intro h
    exact ⟨fun f hf => eq_true_of_ne_false fun endless => h (.known hf endless),
      fun g hg endless => h (.field hg endless)⟩
  · rintro ⟨hknown, hshown⟩ (⟨isKnown, endless⟩ | ⟨isShown, endless⟩)
    · exact Bool.false_ne_true (endless.symm.trans (hknown _ isKnown))
    · exact hshown _ isShown endless

/-! ## The document -/

variable {detail : Failure → String} {now : DateTime} {e : Entry} {j : Json}

/-- **What a document is made of**: what a line always says, what is known, the place, the fields, and the failure. -/
theorem document_ok_iff : e.document detail now = .ok j ↔ ∃ values context fields,
    fieldValues e.fields shownFields = .ok values ∧ members e.known = .ok context ∧ members values = .ok fields
      ∧ j = .object (e.heading now ++ context ++ placeMembers e ++ fields ++ causeMembers detail e.cause) := by
  unfold document
  constructor
  · intro h
    obtain ⟨values, hvalues, h⟩ := bind_eq_ok_iff.mp h
    obtain ⟨context, hcontext, h⟩ := bind_eq_ok_iff.mp h
    obtain ⟨fields, hfields, h⟩ := bind_eq_ok_iff.mp h
    cases h
    exact ⟨values, context, fields, hvalues, hcontext, hfields, rfl⟩
  · rintro ⟨values, context, fields, hvalues, hcontext, hfields, rfl⟩
    rw [known] at hcontext
    rw [hvalues, ok_bind, hcontext, ok_bind, hfields, ok_bind]
    rfl

/-- **A record has a document** unless it breaks its line. -/
theorem document_exists_iff (detail : Failure → String) (now : DateTime) (e : Entry) :
    (∃ j, e.document detail now = .ok j) ↔ ¬ e.Breaks := by
  rw [not_breaks_iff, ← members_ok_iff, shown, ← fieldValues_storable_iff]
  simp only [← members_ok_iff, document_ok_iff]
  constructor
  · rintro ⟨j, values, context, fields, hvalues, hcontext, hfields, -⟩
    exact ⟨⟨context, hcontext⟩, values, hvalues, fields, hfields⟩
  · rintro ⟨⟨context, hcontext⟩, values, hvalues, fields, hfields⟩
    exact ⟨_, values, context, fields, hvalues, hcontext, hfields, rfl⟩

/-- What a line says besides the fields are texts. -/
theorem isFinite_causeMembers (detail : Failure → String) (c : Cause) :
    isFiniteMembers (causeMembers detail c) = true := by
  cases c <;> simp [causeMembers, isFiniteMembers, isFinite]

theorem isFinite_placeMembers (e : Entry) : isFiniteMembers (placeMembers e) = true := by
  unfold placeMembers
  split
  · split <;> simp [isFiniteMembers, isFinite]
  · rw [isFiniteMembers]

theorem isFinite_heading (now : DateTime) (e : Entry) : isFiniteMembers (e.heading now) = true := by
  simp [heading, isFiniteMembers, isFinite]

/-- **The numbers of a document** are finite unless the record is endless. -/
theorem document_isFinite_iff (h : e.document detail now = .ok j) : j.isFinite = true ↔ ¬ e.IsEndless := by
  obtain ⟨values, context, fields, hvalues, hcontext, hfields, rfl⟩ := document_ok_iff.mp h
  rw [isFinite, isFiniteMembers_append, isFiniteMembers_append, isFiniteMembers_append, isFiniteMembers_append,
    isFinite_heading, isFinite_placeMembers, isFinite_causeMembers, Bool.true_and, Bool.and_true, Bool.and_true,
    Bool.and_eq_true, isFinite_members_iff hcontext, isFinite_members_iff hfields, fieldValues_isFinite_iff hvalues,
    not_isEndless_iff]
  rfl

/-! ## Names -/

/-- The names of all members that are no fields of the record. -/
def ownNames : List String :=
  ["ts", "level", "logger", "message", "run_id", "stage", "client_id", "kafka_topic", "kafka_partition", "kafka_offset",
    "file", "exception"]

theorem name_of_mem_known {f : String × Value} (h : f ∈ e.known) : f.1 ∈ ownNames := by
  have hrun : ∀ f ∈ e.run.fields, f.1 ∈ ownNames := by
    unfold RunContext.fields
    simp [ownNames]
  have hposition : ∀ f ∈ e.position.fields, f.1 ∈ ownNames := by
    unfold Position.fields
    simp only [List.forall_mem_append]
    refine ⟨⟨?_, ?_⟩, ?_⟩
    all_goals
      split
      · exact List.forall_mem_nil _
      · simp [ownNames]
  rcases List.mem_append.mp h with hf | hf
  · exact hrun f (List.mem_filter.mp hf).1
  · exact hposition f hf

theorem name_of_mem_heading {m : String × Json} (h : m ∈ e.heading now) : m.1 ∈ ownNames := by
  have hall : ∀ m ∈ e.heading now, m.1 ∈ ownNames := by
    unfold heading
    simp [ownNames]
  exact hall m h

theorem name_of_mem_placeMembers {m : String × Json} (h : m ∈ placeMembers e) : m.1 ∈ ownNames := by
  have hall : ∀ m ∈ placeMembers e, m.1 ∈ ownNames := by
    unfold placeMembers
    split
    · split <;> simp [ownNames]
    · exact List.forall_mem_nil _
  exact hall m h

theorem name_of_mem_causeMembers {m : String × Json} (h : m ∈ causeMembers detail e.cause) : m.1 ∈ ownNames := by
  have hall : ∀ m ∈ causeMembers detail e.cause, m.1 ∈ ownNames := by
    cases e.cause <;> simp [causeMembers, ownNames]
  exact hall m h

/-- The names of fields are written as they are. -/
theorem bodyOf_shownFields : ∀ s ∈ shownFields, bodyOf s.1 = s.1.toList := by decide

theorem bodyOf_ownNames : ∀ s ∈ shownFields, ∀ name ∈ ownNames, bodyOf name ≠ s.1.toList := by decide

theorem kind_unique : ∀ s ∈ shownFields, ∀ t ∈ shownFields, s.1 = t.1 → s.2 = t.2 := by decide

/-- **A member with the name of a field** is made of the value of that field, and of nothing else. -/
theorem mem_document_iff {values : Fields} {context fields : List (String × Json)}
    (hvalues : fieldValues e.fields shownFields = .ok values) (hcontext : members e.known = .ok context)
    (hfields : members values = .ok fields) {name : String} {kind : Option NumberKind}
    (hshown : (name, kind) ∈ shownFields) {t : Tree} :
    (name.toList, t) ∈ treeMembers (e.heading now ++ context ++ placeMembers e ++ fields ++ causeMembers detail e.cause)
      ↔ ∃ v w j, e.fields.get? name = some v ∧ v.isNull = false ∧ fieldValue kind v = .ok w ∧ w.toJson = .ok j
        ∧ t = j.tree := by
  rw [mem_treeMembers_iff]
  constructor
  · rintro ⟨other, j, hmem, heq⟩
    obtain ⟨hname, rfl⟩ := Prod.mk.inj heq
    have hforeign : other ∉ ownNames := fun hown => bodyOf_ownNames _ hshown other hown hname.symm
    -- All other members have names of their own.
    have hmember : (other, j) ∈ fields := by
      simp only [List.mem_append] at hmem
      rcases hmem with (((hheading | hknown) | hplace) | hfield) | hcause
      · exact absurd (name_of_mem_heading hheading) hforeign
      · obtain ⟨v, hv, -⟩ := (mem_members_iff hcontext).mp hknown
        exact absurd (name_of_mem_known hv) hforeign
      · exact absurd (name_of_mem_placeMembers hplace) hforeign
      · exact hfield
      · exact absurd (name_of_mem_causeMembers hcause) hforeign
    obtain ⟨w, hw, hj⟩ := (mem_members_iff hfields).mp hmember
    obtain ⟨g, hg, rfl, hread⟩ := (mem_fieldValues_iff hvalues).mp hw
    obtain ⟨hlisted, hget, hnull⟩ := mem_given_iff.mp hg
    rw [bodyOf_shownFields _ hlisted] at hname
    obtain rfl : name = g.name := String.toList_inj.mp hname
    obtain rfl : kind = g.kind := kind_unique _ hshown _ hlisted rfl
    exact ⟨g.value, w, j, hget, hnull, hread, hj, rfl⟩
  · rintro ⟨v, w, j, hget, hnull, hread, hj, rfl⟩
    have hvalue : (name, w) ∈ values :=
      (mem_fieldValues_iff hvalues).mpr ⟨⟨name, kind, v⟩, mem_given_iff.mpr ⟨hshown, hget, hnull⟩, rfl, hread⟩
    have hmember : (name, j) ∈ fields := (mem_members_iff hfields).mpr ⟨w, hvalue, hj⟩
    refine ⟨name, j, List.mem_append_left _ (List.mem_append_right _ hmember), ?_⟩
    rw [bodyOf_shownFields _ hshown]

/-! ## The line -/

/-- A number, or null, as it is written. -/
inductive IsNumberOrNull : Tree → Prop where
  | null : IsNumberOrNull .null
  | number (digits : List Char) : IsNumberOrNull (.number digits)

/-- What is shown of a field that must be a number. -/
theorem isNumberOrNull_tree {number : NumberKind} {v w : Value} (hread : fieldValue (some number) v = .ok w)
    (hj : w.toJson = .ok j) : IsNumberOrNull j.tree := by
  rcases fieldValue_number hread with rfl | ⟨n, rfl⟩ | ⟨x, rfl⟩
  · rw [Value.toJson] at hj
    cases hj
    rw [tree]
    exact .null
  · rw [Value.toJson] at hj
    split at hj
    · cases hj
    · cases hj
      rw [tree]
      exact .number _
  · rw [Value.toJson] at hj
    cases hj
    rw [tree]
    exact .number _

/-- **What a document shows of the fields**: those that are there and not null, and numbers where they must be. -/
theorem document_shows (h : e.document detail now = .ok j) : ∃ ms, j.tree = .object ms ∧
    ∀ name kind, (name, kind) ∈ shownFields →
      ((∃ t, (name.toList, t) ∈ ms) ↔ ∃ v, e.fields.get? name = some v ∧ v.isNull = false) ∧
        (kind.isSome = true → ∀ t, (name.toList, t) ∈ ms → IsNumberOrNull t) := by
  obtain ⟨values, context, fields, hvalues, hcontext, hfields, rfl⟩ := document_ok_iff.mp h
  rw [tree]
  refine ⟨_, rfl, fun name kind hshown => ⟨⟨?_, ?_⟩, fun hkind t ht => ?_⟩⟩
  · rintro ⟨t, ht⟩
    obtain ⟨v, w, j, hget, hnull, -⟩ := (mem_document_iff hvalues hcontext hfields hshown).mp ht
    exact ⟨v, hget, hnull⟩
  · rintro ⟨v, hget, hnull⟩
    have hgiven : (⟨name, kind, v⟩ : Given) ∈ given e.fields shownFields := mem_given_iff.mpr ⟨hshown, hget, hnull⟩
    obtain ⟨w, hread, hmem⟩ := exists_fieldValue hvalues hgiven
    obtain ⟨j, hj⟩ := (Value.toJson_ok_iff w).mpr ((members_ok_iff values).mp ⟨fields, hfields⟩ _ hmem)
    exact ⟨j.tree, (mem_document_iff hvalues hcontext hfields hshown).mpr ⟨v, w, j, hget, hnull, hread, hj, rfl⟩⟩
  · obtain ⟨number, rfl⟩ := Option.isSome_iff_exists.mp hkind
    obtain ⟨v, w, j, -, -, hread, hj, rfl⟩ := (mem_document_iff hvalues hcontext hfields hshown).mp ht
    exact isNumberOrNull_tree hread hj

/-- **What becomes of a record.** It is refused exactly if it breaks its line. Otherwise it becomes one line; that is
    JSON unless the record is endless, and then shows exactly the fields that are there and not null, where those that
    must be numbers are numbers or null. -/
theorem jsonLine_outcome (detail : Failure → String) (now : DateTime) (e : Entry) :
    ((∃ f, e.jsonLine detail now = .error f) ↔ e.Breaks) ∧
      ∀ line, e.jsonLine detail now = .ok line →
        '\n' ∉ line.toList ∧ ((∃ t, IsJson t line.toList) ↔ ¬ e.IsEndless) ∧
          (¬ e.IsEndless → ∃ ms, IsJson (.object ms) line.toList ∧
            ∀ name kind, (name, kind) ∈ shownFields →
              ((∃ t, (name.toList, t) ∈ ms) ↔ ∃ v, e.fields.get? name = some v ∧ v.isNull = false) ∧
                (kind.isSome = true → ∀ t, (name.toList, t) ∈ ms → IsNumberOrNull t)) := by
  have hok := document_exists_iff detail now e
  unfold jsonLine
  constructor
  · cases hdocument : e.document detail now with
    | ok j =>
      have hfine : ¬ e.Breaks := hok.mp ⟨j, hdocument⟩
      exact iff_of_false (fun ⟨_, h⟩ => nomatch h) hfine
    | error f =>
      have hbreaks : e.Breaks := Classical.not_not.mp fun hfine => by
        obtain ⟨j, hj⟩ := hok.mpr hfine
        rw [hdocument] at hj
        cases hj
      exact iff_of_true ⟨f, rfl⟩ hbreaks
  · intro line hline
    obtain ⟨j, hj, rfl⟩ := map_eq_ok_iff.mp hline
    have hfinite := document_isFinite_iff hj
    refine ⟨fun hbreak => ?_, (isJson_render_iff j).trans hfinite, fun hnot => ?_⟩
    · have hcontrol : ¬ IsPrintable '\n' := by decide
      exact hcontrol (isPrintable_render j _ hbreak)
    · have hspells := render_spells (hfinite.mpr hnot) []
      rw [List.append_nil] at hspells
      obtain ⟨ms, hms, hshows⟩ := document_shows hj
      rw [hms] at hspells
      exact ⟨ms, hspells, hshows⟩

/-- **A number that is infinite breaks the line** where an integer must be, although one that is no number at all is
    shown as null. -/
theorem jsonLine_refused_for_infinite_partition :
    Entry.jsonLine (fun _ => "") ⟨⟨2026, 1, 2⟩, 3, 4, 5, 678000, none⟩
        ⟨Level.info, "test.logger", "test message", [("partition", .float (.infinite false))], .absent, none, .empty,
          .empty⟩
      = .error (.mishap .outOfRange "cannot convert float infinity to integer") := rfl

end Entry

end TopicReader
