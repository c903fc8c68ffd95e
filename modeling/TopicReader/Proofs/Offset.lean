import TopicReader.Offset.Spec
import TopicReader.Proofs.Numerals
import TopicReader.Proofs.Settings.Group

/-!
# `Proofs.Offset` — what a spec of an offset names

A spec is trimmed and then looked at twice: is it one of the words, and if not, is it an integer? `Names` says without
the two looks what a text names, and a spec is read as an offset exactly if it names one. All else is refused with the
spec as it was written. The check of the settings looks at the word for stored offsets by itself; it finds it in the
same specs.

## Contents
- **The reference.** `Offset.words` and `Offset.Names`.
- **Reading.** `Offset.resolve_ok_iff`, and `Offset.resolve_error`: what is refused.
- **Words and integers.** `Offset.resolve_word_iff`, `Offset.resolve_absolute_iff`, `Offset.resolve_tail_iff`.
- **Printing.** `Offset.resolve_intText` and `Offset.resolve_text`: what has a text of its own is read back from it.
- **The law.** `Offset.resolve_specs`.
-/

namespace TopicReader

open TopicReader.Text

namespace Offset

/-! ## The reference -/

/-- The words for offsets. -/
def words : List (String × Offset) := [("beginning", .earliest), ("end", .latest), ("stored", .stored)]

/-- **The offset that a text names**, if there is nothing to trim around it: a word says which one, an integer counts
    from the first record on, or from the end if it is negative. -/
inductive Names : List Char → Offset → Prop where
  | word {word : String} {d : Offset} (listed : (word, d) ∈ words) : Names word.toList d
  | absolute {cs : List Char} {n : Nat} (numeral : Whole.Numeral cs n) : Names cs (.absolute n)
  | tail {cs : List Char} {n : Nat} (some : 1 ≤ n) (numeral : Whole.Numeral cs (-n)) : Names cs (.tail n)

theorem ofWord?_eq_some_iff {word : String} {d : Offset} : ofWord? word = some d ↔ (word, d) ∈ words := by
  unfold ofWord? words
  constructor
  · intro h
    split_ifs at h with hbeginning hend hstored <;> cases h <;> simp [*]
  · intro h
    simp only [List.mem_cons, List.not_mem_nil, or_false, Prod.mk.injEq] at h
    rcases h with ⟨rfl, rfl⟩ | ⟨rfl, rfl⟩ | ⟨rfl, rfl⟩ <;> rfl

/-- A word is no integer. -/
theorem not_numeral_of_mem_words {word : String} {d : Offset} (h : (word, d) ∈ words) (n : Int) :
    ¬ Whole.Numeral word.toList n := by
  have hall : ∀ w ∈ words, Whole.readSigned 10 w.1.toList = .error .malformed := by decide
  intro hnumeral
  have hread := Whole.readSigned_ok_iff.mpr hnumeral
  rw [hall _ h] at hread
  cases hread

/-! ## Reading -/

/-- An integer names what it is read as. -/
theorem names_ofInt {cs : List Char} {n : Int} (h : Whole.Numeral cs n) : Names cs (ofInt n) := by
  unfold ofInt
  split
  · rename_i hneg
    refine .tail (by omega) ?_
    rwa [Int.ofNat_natAbs_of_nonpos (Int.le_of_lt hneg), Int.neg_neg]
  · rename_i hnonneg
    refine .absolute ?_
    rwa [Int.natAbs_of_nonneg (Int.not_lt.mp hnonneg)]

/-- A word names one offset. -/
theorem names_word_iff {word : String} {d e : Offset} (h : (word, d) ∈ words) : Names word.toList e ↔ d = e := by
  constructor
  · intro hnames
    generalize hcs : word.toList = cs at hnames
    cases hnames with
    | word listed =>
      rw [← String.toList_inj.mp hcs, ← ofWord?_eq_some_iff] at listed
      exact Option.some.inj ((ofWord?_eq_some_iff.mpr h).symm.trans listed)
    | absolute numeral | tail _ numeral => exact absurd (hcs ▸ numeral) (not_numeral_of_mem_words h _)
  · rintro rfl
    exact .word h

/-- Where a text is no word, it names an offset only as an integer. -/
theorem names_iff_of_not_word {text : String} (h : ofWord? text = none) (d : Offset) :
    Names text.toList d ↔ ∃ n, Whole.Numeral text.toList n ∧ ofInt n = d := by
  constructor
  · intro hnames
    generalize hcs : text.toList = cs at hnames
    cases hnames with
    | word listed =>
      rw [← String.toList_inj.mp hcs, ← ofWord?_eq_some_iff, h] at listed
      cases listed
    | @absolute _ n numeral => exact ⟨n, numeral, rfl⟩
    | @tail _ n some numeral =>
      refine ⟨-n, numeral, ?_⟩
      unfold ofInt
      rw [if_pos (by omega), Int.natAbs_neg, Int.natAbs_natCast]
  · rintro ⟨n, hnumeral, rfl⟩
    exact names_ofInt hnumeral

/-- **A spec is read** as an offset exactly if it names it, blanks around it aside. -/
theorem resolve_ok_iff {spec : String} {d : Offset} : resolve spec = .ok d ↔ Names (trim spec.toList) d := by
  have htoken : (trimText spec).toList = trim spec.toList := String.toList_ofList
  unfold resolve ofSpec?
  dsimp only
  cases hword : ofWord? (trimText spec) with
  | some e =>
    rw [← htoken, names_word_iff (ofWord?_eq_some_iff.mp hword)]
    exact ⟨Except.ok.inj, congrArg _⟩
  | none =>
    rw [← htoken, names_iff_of_not_word hword, htoken]
    simp only [← Whole.read_trimText_ok_iff]
    cases hread : Whole.read (trimText spec) with
    | ok n => simp
    | error r => simp

/-- **A spec that is refused** is told as it was written. -/
theorem resolve_error {spec : String} {f : Failure} (h : resolve spec = .error f) :
    f = .classified (.offsetSpec spec) := by
  unfold resolve at h
  split at h
  · cases h
  · exact (Except.error.inj h).symm

/-! ## Words and integers -/

/-- **A word** is meant by the specs that are that word, blanks around it aside. -/
theorem resolve_word_iff {word : String} {d : Offset} (h : (word, d) ∈ words) (spec : String) :
    resolve spec = .ok d ↔ trimText spec = word := by
  -- No offset has two words, and none that has a word is meant by an integer.
  have hone : ∀ w ∈ words, ∀ v ∈ words, w.2 = v.2 → w.1 = v.1 := by decide
  have hinteger : ∀ w ∈ words, (∀ n, w.2 ≠ .absolute n) ∧ ∀ n, w.2 ≠ .tail n := by
    simp [words]
  have htoken : (trimText spec).toList = trim spec.toList := String.toList_ofList
  rw [resolve_ok_iff, ← htoken]
  constructor
  · intro hnames
    generalize hcs : (trimText spec).toList = cs at hnames
    cases hnames with
    | word listed =>
      rw [String.toList_inj.mp hcs]
      exact hone _ listed _ h rfl
    | absolute _ => exact absurd rfl ((hinteger _ h).1 _)
    | tail _ _ => exact absurd rfl ((hinteger _ h).2 _)
  · intro hword
    rw [hword]
    exact .word h

theorem names_absolute_iff {cs : List Char} {n : Nat} : Names cs (.absolute n) ↔ Whole.Numeral cs n := by
  constructor
  · intro hnames
    cases hnames with
    | word listed => simp [words] at listed
    | absolute numeral => exact numeral
  · exact .absolute

theorem names_tail_iff {cs : List Char} {n : Nat} : Names cs (.tail n) ↔ 1 ≤ n ∧ Whole.Numeral cs (-n) := by
  constructor
  · intro hnames
    cases hnames with
    | word listed => simp [words] at listed
    | tail some numeral => exact ⟨some, numeral⟩
  · rintro ⟨hsome, hnumeral⟩
    exact .tail hsome hnumeral

/-- **An absolute offset** is meant by the integers from zero on. -/
theorem resolve_absolute_iff {spec : String} {n : Nat} :
    resolve spec = .ok (.absolute n) ↔ Whole.Numeral (trim spec.toList) n := by
  rw [resolve_ok_iff, names_absolute_iff]

/-- **A number of records before the end** is meant by the negative integers. -/
theorem resolve_tail_iff {spec : String} {n : Nat} :
    resolve spec = .ok (.tail n) ↔ 1 ≤ n ∧ Whole.Numeral (trim spec.toList) (-n) := by
  rw [resolve_ok_iff, names_tail_iff]

/-! ## Printing -/

/-- **An integer that is printed**, with blanks around it, is read as what it counts. -/
theorem resolve_intText {n : Int} (short : n.natAbs.repr.length ≤ Whole.digitLimit) {front back : List Char}
    (hfront : ∀ c ∈ front, isBlank c = true) (hback : ∀ c ∈ back, isBlank c = true) :
    resolve (String.ofList (front ++ (intText n).toList ++ back))
      = .ok (if 0 ≤ n then .absolute n.toNat else .tail (-n).toNat) := by
  have hnumeral := Whole.numeral_intText short
  have htrim : trim (String.ofList (front ++ (intText n).toList ++ back)).toList = (intText n).toList := by
    rw [String.toList_ofList]
    exact trim_append hfront hback (Whole.intText_ne_nil n) (Whole.bare_intText n)
  split
  · rename_i hnonneg
    rw [resolve_absolute_iff, htrim, Int.toNat_of_nonneg hnonneg]
    exact hnumeral
  · rename_i hneg
    rw [resolve_tail_iff, htrim, Int.toNat_of_nonneg (by omega), Int.neg_neg]
    exact ⟨by omega, hnumeral⟩

/-- **An offset that was read** is read back from its text, unless it counts from the end. -/
theorem resolve_text {spec : String} {d : Offset} (h : resolve spec = .ok d) (absolute : ∀ count, d ≠ .tail count) :
    resolve d.text = .ok d := by
  cases d with
  | earliest => rfl
  | latest => rfl
  | stored => rfl
  | absolute n =>
    have hshort := (resolve_absolute_iff.mp h).printable
    have hread := resolve_intText hshort (List.forall_mem_nil _) (List.forall_mem_nil _)
    rw [List.nil_append, List.append_nil, String.ofList_toList, if_pos (Int.natCast_nonneg n), Int.toNat_natCast]
      at hread
    exact hread
  | tail count => exact absurd rfl (absolute count)

/-! ## The law -/

/-- **What a spec comes to.** A word is meant by the specs that are that word, blanks around it aside; an integer from
    zero on is an absolute offset and a negative one a number of records before the end; all else is refused, and told
    as it was written. An integer that is printed is read as what it counts, whatever blanks are around it, and an
    offset that was read is read back from its own text, unless it counts from the end. Settings that are fine with
    another offset are fine with this one exactly if stored offsets, where it means them, have a group. -/
theorem resolve_specs (spec : String) :
    (resolve spec = .ok .earliest ↔ trimText spec = "beginning")
      ∧ (resolve spec = .ok .latest ↔ trimText spec = "end")
      ∧ (resolve spec = .ok .stored ↔ trimText spec = "stored")
      ∧ (∀ n, resolve spec = .ok (.absolute n) ↔ Whole.Numeral (trim spec.toList) n)
      ∧ (∀ n, resolve spec = .ok (.tail n) ↔ 1 ≤ n ∧ Whole.Numeral (trim spec.toList) (-n))
      ∧ (∀ f, resolve spec = .error f → f = .classified (.offsetSpec spec))
      ∧ (∀ (n : Int) (front back : List Char), n.natAbs.repr.length ≤ 4300 → (∀ c ∈ front, isBlank c = true) →
          (∀ c ∈ back, isBlank c = true) → spec = String.ofList (front ++ (intText n).toList ++ back) →
          resolve spec = .ok (if 0 ≤ n then .absolute n.toNat else .tail (-n).toNat))
      ∧ (∀ d, resolve spec = .ok d → (∀ count, d ≠ .tail count) → resolve d.text = .ok d)
      ∧ (∀ s : Settings, s.offset = spec → s.validate = .ok () → resolve spec = .ok .stored →
          s.groupId.truthy = true)
      ∧ ∀ s : Settings, ({ s with offset := "beginning" } : Settings).validate = .ok () →
          (({ s with offset := spec } : Settings).validate = .ok ()
            ↔ (resolve spec = .ok .stored → s.groupId.truthy = true)) := by
  have hstored : resolve spec = .ok .stored ↔ trimText spec = "stored" := resolve_word_iff (by simp [words]) spec
  refine ⟨resolve_word_iff (by simp [words]) spec, resolve_word_iff (by simp [words]) spec, hstored,
    fun _ => resolve_absolute_iff, fun _ => resolve_tail_iff, fun _ => resolve_error, ?_,
    fun _ => resolve_text, ?_, ?_⟩
  · rintro n front back hshort hfront hback rfl
    exact resolve_intText hshort hfront hback
  · rintro s rfl hvalid hread
    obtain ⟨-, hgroup, -⟩ := s.validate_ok_iff.mp hvalid
    exact hgroup (hstored.mp hread)
  · intro s hother
    obtain ⟨hbefore, -, hafter⟩ := (Settings.validate_ok_iff _).mp hother
    rw [hstored, Settings.validate_ok_iff]
    exact ⟨fun h => h.2.1, fun h => ⟨hbefore, h, hafter⟩⟩

end Offset

end TopicReader
