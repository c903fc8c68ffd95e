import Mathlib.Data.List.DropRight
import Mathlib.Data.Nat.Digits.Defs
import TopicReader.Value.Text

/-!
# `Proofs.Numerals` — which texts are integers

The reader of integers goes over a text once, and counts and adds up as it goes. Here it is said without the reader
which texts are integers: a sign or none, and then digits of any script, with single underscores between them and no
more of them than the limit. The text that an integer is printed as is one of them, and so is read back.

## Contents
- **Trimming.** `Text.Bare`: nothing to trim; `Text.trim_append` and `Text.trimPadding_trim`.
- **Digits.** `Whole.Spells`: the digits that a text spells, `Whole.numberOf`, and the reader of digits in any base.
- **Numerals.** `Whole.Numeral`, `Whole.readSigned_ok_iff` and `Whole.read_trimText_ok_iff`.
- **Printing.** `Whole.numeral_intText`: what is printed is read back; `Whole.Numeral.printable`: what is read can be
  printed.
-/

namespace TopicReader

/-! ## Trimming -/

namespace Text

/-- **Nothing to trim**: neither the first nor the last character is of a class. -/
def Bare (p : Char → Bool) (cs : List Char) : Prop :=
  ∀ h : cs ≠ [], p (cs.head h) = false ∧ p (cs.getLast h) = false

/-- Where there is nothing to trim, there is nothing of a smaller class. -/
theorem Bare.mono {p q : Char → Bool} {cs : List Char} (h : Bare p cs) (hle : ∀ c, q c = true → p c = true) :
    Bare q cs := by
  intro hne
  have hnot : ∀ c, p c = false → q c = false := fun c hc => eq_false_of_ne_true fun hq => by
    rw [hle c hq] at hc
    cases hc
  exact ⟨hnot _ (h hne).1, hnot _ (h hne).2⟩

/-- After trimming there is nothing to trim. -/
theorem bare_strip (p : Char → Bool) (cs : List Char) : Bare p ((cs.dropWhile p).rdropWhile p) := by
  intro hne
  refine ⟨?_, eq_false_of_ne_true (List.rdropWhile_last_not p _ hne)⟩
  -- What is dropped at the end leaves the first character where it is.
  have hkept : (cs.dropWhile p).rdropWhile p <+: cs.dropWhile p := List.rdropWhile_prefix p _
  rw [hkept.head hne]
  exact List.head_dropWhile_not p _

/-- Trimming takes away just what was put around a bare text. -/
theorem strip_append {p : Char → Bool} {front cs back : List Char} (hfront : ∀ c ∈ front, p c = true)
    (hback : ∀ c ∈ back, p c = true) (hne : cs ≠ []) (hbare : Bare p cs) :
    ((front ++ cs ++ back).dropWhile p).rdropWhile p = cs := by
  have hkept : (cs ++ back).dropWhile p = cs ++ back := by
    obtain ⟨c, rest, rfl⟩ := List.exists_cons_of_ne_nil hne
    have hfirst : p c = false := (hbare hne).1
    rw [List.cons_append, List.dropWhile_cons_of_neg]
    rw [hfirst]
    exact Bool.false_ne_true
  rw [List.append_assoc, List.dropWhile_append_of_pos hfront, hkept, List.rdropWhile, List.reverse_append,
    List.dropWhile_append_of_pos fun c hc => hback c (List.mem_reverse.mp hc)]
  refine List.rdropWhile_eq_self_iff.mpr fun _ => ?_
  rw [(hbare hne).2]
  exact Bool.false_ne_true

theorem trim_append {front cs back : List Char} (hfront : ∀ c ∈ front, isBlank c = true)
    (hback : ∀ c ∈ back, isBlank c = true) (hne : cs ≠ []) (hbare : Bare isBlank cs) :
    trim (front ++ cs ++ back) = cs := strip_append hfront hback hne hbare

/-- Behind trimming a text there is no padding left to trim. -/
theorem trimPadding_trim (cs : List Char) : trimPadding (trim cs) = trim cs := by
  have hbare : Bare isPadding (trim cs) := (bare_strip isBlank cs).mono fun c hc => by
    unfold isPadding at hc
    exact (Bool.and_eq_true_iff.mp hc).1
  by_cases hne : trim cs = []
  · rw [hne]
    rfl
  · have hstrip : (([] ++ trim cs ++ []).dropWhile isPadding).rdropWhile isPadding = trim cs :=
      strip_append (List.forall_mem_nil _) (List.forall_mem_nil _) hne hbare
    rwa [List.append_nil] at hstrip

/-- Digits are not blank. -/
theorem isBlank_of_isDigit {c : Char} (h : c.isDigit = true) : isBlank c = false := by
  have hbounds : 48 ≤ c.toNat ∧ c.toNat ≤ 57 := by simpa [Char.isDigit, UInt32.le_iff_toNat_le] using h
  simp only [isBlank, inRanges, blankRanges, List.any_cons, List.any_nil, Bool.or_false, Bool.or_eq_false_iff,
    Bool.and_eq_false_iff, decide_eq_false_iff_not]
  omega

end Text

namespace Whole

open TopicReader.Text

/-! ## Digits -/

/-- **The digits that a text spells** in a base: one or more, with single underscores between them. -/
inductive Spells (base : Nat) : List Char → List Nat → Prop where
  | one {c : Char} {d : Nat} (digit : digitIn base c = some d) : Spells base [c] [d]
  | next {c : Char} {d : Nat} {cs : List Char} {ds : List Nat} (digit : digitIn base c = some d)
    (rest : Spells base cs ds) : Spells base (c :: cs) (d :: ds)
  | gap {c : Char} {d : Nat} {cs : List Char} {ds : List Nat} (digit : digitIn base c = some d)
    (rest : Spells base cs ds) : Spells base (c :: '_' :: cs) (d :: ds)

/-- What digits amount to behind a number. -/
def numberFrom (base number : Nat) (ds : List Nat) : Nat := ds.foldl (fun n d => n * base + d) number

/-- The number that digits stand for, the greatest place first. -/
def numberOf (base : Nat) (ds : List Nat) : Nat := numberFrom base 0 ds

theorem digitIn_underscore (base : Nat) : digitIn base '_' = none := by
  have hnone : baseDigitValue '_' = none := by decide
  rw [digitIn, hnone]

theorem digitIn_lt {base : Nat} {c : Char} {d : Nat} (h : digitIn base c = some d) : d < base := by
  unfold digitIn at h
  split at h
  · split at h
    · cases h
      assumption
    · cases h
  · cases h

namespace Spells

variable {base : Nat} {cs : List Char} {ds : List Nat}

/-- A text of digits starts with one. -/
theorem head (h : Spells base cs ds) : ∃ c rest, cs = c :: rest ∧ (digitIn base c).isSome = true := by
  cases h with
  | one digit | next digit _ | gap digit _ => exact ⟨_, _, rfl, by rw [digit]; rfl⟩

theorem ne_nil (h : Spells base cs ds) : ds ≠ [] := by
  cases h <;> exact List.cons_ne_nil _ _

theorem lt (h : Spells base cs ds) : ∀ d ∈ ds, d < base := by
  induction h with
  | one digit => exact List.forall_mem_singleton.mpr (digitIn_lt digit)
  | next digit _ ih | gap digit _ ih => exact List.forall_mem_cons.mpr ⟨digitIn_lt digit, ih⟩

/-- **Digits are read** up to the end, whatever was read before them. -/
theorem readDigitRun (h : Spells base cs ds) (mark : Bool) (number count : Nat) :
    readDigitRun base mark number count cs = some (numberFrom base number ds, count + ds.length, []) := by
  induction h generalizing mark number count with
  | one digit => simp only [Whole.readDigitRun, digit]; rfl
  | @next c d cs ds digit _ ih =>
    simp only [Whole.readDigitRun, digit]
    rw [ih, List.length_cons, Nat.add_right_comm]
    rfl
  | @gap c d cs ds digit rest ih =>
    -- An underscore is passed over, since a digit stands before it and another one behind it.
    obtain ⟨next, more, rfl, hnext⟩ := rest.head
    rw [Whole.readDigitRun, digit]
    dsimp only
    rw [Whole.readDigitRun, digitIn_underscore]
    dsimp only
    rw [if_pos rfl, if_pos ⟨rfl, hnext⟩, ih, List.length_cons, Nat.add_right_comm]
    rfl

end Spells

/-- **What is read to the end** is nothing, or digits; behind a digit an underscore may stand before them. -/
theorem spells_of_readDigitRun {base : Nat} {mark : Bool} {number count value total : Nat} {cs : List Char}
    (h : readDigitRun base mark number count cs = some (value, total, [])) :
    (cs = [] ∧ total = count)
      ∨ ∃ ds, (Spells base cs ds ∨ mark = true ∧ ∃ rest, cs = '_' :: rest ∧ Spells base rest ds)
        ∧ value = numberFrom base number ds ∧ total = count + ds.length := by
  induction cs generalizing mark number count with
  | nil =>
    cases h
    exact .inl ⟨rfl, rfl⟩
  | cons c rest ih =>
    unfold readDigitRun at h
    right
    cases hdigit : digitIn base c with
    | some d =>
      rw [hdigit] at h
      dsimp only at h
      rcases ih h with ⟨rfl, htotal⟩ | ⟨ds, hrest, hvalue, htotal⟩
      · cases h
        exact ⟨[d], .inl (.one hdigit), rfl, rfl⟩
      · refine ⟨d :: ds, .inl ?_, hvalue, by rw [htotal, List.length_cons, Nat.add_right_comm]; rfl⟩
        rcases hrest with hspells | ⟨-, more, rfl, hspells⟩
        · exact .next hdigit hspells
        · exact .gap hdigit hspells
    | none =>
      rw [hdigit] at h
      dsimp only at h
      split at h
      · rename_i hunderscore
        subst hunderscore
        cases rest with
        | nil => cases h
        | cons next more =>
          dsimp only at h
          split at h
          · rename_i hbetween
            -- Behind the underscore stands a digit, so no second underscore does.
            rcases ih h with ⟨hnil, -⟩ | ⟨ds, hspells | ⟨hmark, -⟩, hread⟩
            · cases hnil
            · exact ⟨ds, .inr ⟨hbetween.1, _, rfl, hspells⟩, hread⟩
            · cases hmark
          · cases h
      · cases h

theorem dropBaseMark_of_unmarked {base : Nat} {cs : List Char}
    (h : ∀ c rest, cs = '0' :: c :: rest → baseMark base ≠ some c.toLower) : dropBaseMark base cs = (false, cs) := by
  unfold dropBaseMark
  split
  · exact if_neg (h _ _ rfl)
  · rfl

/-- **Digits without a sign or a base mark** are read exactly if they are spelled, and are no more than the limit where
    there is one. -/
theorem readUnsigned_unmarked_ok_iff {base : Nat} {cs : List Char} {n : Nat}
    (hmark : dropBaseMark base cs = (false, cs)) :
    readUnsigned base cs = .ok n
      ↔ ∃ ds, Spells base cs ds ∧ (base = 10 → ds.length ≤ digitLimit) ∧ n = numberOf base ds := by
  unfold readUnsigned
  rw [hmark]
  constructor
  · intro h
    dsimp only at h
    split at h
    · cases h
    · rename_i value count rest hread
      split at h
      · cases h
      · rename_i hshort
        split at h
        · cases h
        · rename_i hwhole
          obtain ⟨hsome, rfl⟩ : count ≠ 0 ∧ rest = [] := by simpa using hwhole
          cases h
          rcases spells_of_readDigitRun hread with ⟨-, hnone⟩ | ⟨ds, hspells | ⟨hmark, -⟩, hvalue, htotal⟩
          · exact absurd hnone hsome
          · refine ⟨ds, hspells, fun hbase => ?_, hvalue⟩
            rw [Nat.zero_add] at htotal
            simpa [hbase, htotal] using hshort
          · cases hmark
  · rintro ⟨ds, hspells, hshort, rfl⟩
    dsimp only
    have hsome : ds.length ≠ 0 := by simpa using hspells.ne_nil
    rw [hspells.readDigitRun, Nat.zero_add]
    dsimp only
    rw [if_neg fun h => Nat.not_lt_of_le (hshort h.1) h.2, if_neg fun h => h.elim hsome fun h => h rfl]
    rfl

/-- Decimal digits have no base mark. -/
theorem readUnsigned_ok_iff {cs : List Char} {n : Nat} :
    readUnsigned 10 cs = .ok n ↔ ∃ ds, Spells 10 cs ds ∧ ds.length ≤ digitLimit ∧ n = numberOf 10 ds := by
  have hmark : dropBaseMark 10 cs = (false, cs) :=
    dropBaseMark_of_unmarked fun c rest _ => Option.some_ne_none _ |>.symm
  simpa using readUnsigned_unmarked_ok_iff hmark

/-! ## Numerals -/

/-- **The integer that a text stands for**: digits of any script with single underscores between them, no more than
    the limit, behind a sign or none. -/
inductive Numeral : List Char → Int → Prop where
  | bare {cs : List Char} {ds : List Nat} (digits : Spells 10 cs ds) (short : ds.length ≤ digitLimit) :
    Numeral cs (numberOf 10 ds)
  | plus {cs : List Char} {ds : List Nat} (digits : Spells 10 cs ds) (short : ds.length ≤ digitLimit) :
    Numeral ('+' :: cs) (numberOf 10 ds)
  | minus {cs : List Char} {ds : List Nat} (digits : Spells 10 cs ds) (short : ds.length ≤ digitLimit) :
    Numeral ('-' :: cs) (-(numberOf 10 ds : Int))

/-- A sign is no digit. -/
theorem Spells.unsigned {cs : List Char} {ds : List Nat} (h : Spells 10 cs ds) :
    (∀ rest, cs ≠ '-' :: rest) ∧ ∀ rest, cs ≠ '+' :: rest := by
  obtain ⟨c, more, rfl, hdigit⟩ := h.head
  constructor
  · intro rest heq
    cases heq
    exact absurd hdigit (by decide)
  · intro rest heq
    cases heq
    exact absurd hdigit (by decide)

/-- What is read behind a sign, in any base. -/
theorem signed_ok_iff {base : Nat} {cs : List Char} {signed : Int → Int} {n : Int} :
    (do let value ← readUnsigned base cs; pure (value : Int) : Except Refusal Int).map signed = .ok n
      ↔ ∃ value, readUnsigned base cs = .ok value ∧ n = signed value := by
  cases hread : readUnsigned base cs with
  | error r =>
    constructor
    · intro h
      cases h
    · rintro ⟨value, hvalue, -⟩
      cases hvalue
  | ok value =>
    constructor
    · intro h
      cases h
      exact ⟨value, rfl, rfl⟩
    · rintro ⟨other, hother, rfl⟩
      cases hother
      rfl

/-- What stands behind a sign. -/
theorem readUnsigned_signed_ok_iff {cs : List Char} {signed : Int → Int} {n : Int} :
    (do let value ← readUnsigned 10 cs; pure (value : Int) : Except Refusal Int).map signed = .ok n
      ↔ ∃ ds, Spells 10 cs ds ∧ ds.length ≤ digitLimit ∧ n = signed (numberOf 10 ds) := by
  rw [signed_ok_iff]
  constructor
  · rintro ⟨value, hread, rfl⟩
    obtain ⟨ds, hspells, hshort, rfl⟩ := readUnsigned_ok_iff.mp hread
    exact ⟨ds, hspells, hshort, rfl⟩
  · rintro ⟨ds, hspells, hshort, rfl⟩
    exact ⟨_, readUnsigned_ok_iff.mpr ⟨ds, hspells, hshort, rfl⟩, rfl⟩

/-- **A text without padding** is read as the integer that it stands for. -/
theorem readSigned_ok_iff {cs : List Char} {n : Int} : readSigned 10 cs = .ok n ↔ Numeral cs n := by
  unfold readSigned
  split
  · rw [readUnsigned_signed_ok_iff]
    constructor
    · rintro ⟨ds, hspells, hshort, rfl⟩
      exact .minus hspells hshort
    · intro h
      cases h with
      | bare hspells _ => exact absurd rfl (hspells.unsigned.1 _)
      | minus hspells hshort => exact ⟨_, hspells, hshort, rfl⟩
  · rw [readUnsigned_signed_ok_iff]
    constructor
    · rintro ⟨ds, hspells, hshort, rfl⟩
      exact .plus hspells hshort
    · intro h
      cases h with
      | bare hspells _ => exact absurd rfl (hspells.unsigned.2 _)
      | plus hspells hshort => exact ⟨_, hspells, hshort, rfl⟩
  · rename_i hminus hplus
    rw [readUnsigned_signed_ok_iff]
    constructor
    · rintro ⟨ds, hspells, hshort, rfl⟩
      exact .bare hspells hshort
    · intro h
      cases h with
      | bare hspells hshort => exact ⟨_, hspells, hshort, rfl⟩
      | plus _ _ => exact absurd rfl (hplus _)
      | minus _ _ => exact absurd rfl (hminus _)

/-- **A text that was trimmed** is read as the integer that it stands for. -/
theorem read_trimText_ok_iff {s : String} {n : Int} :
    read (trimText s) = .ok n ↔ Numeral (trim s.toList) n := by
  rw [← readSigned_ok_iff, read, readIn, trimText, String.toList_ofList, trimPadding_trim]

/-! ## Printing -/

theorem digitIn_of_isDigit {c : Char} (h : c.isDigit = true) : digitIn 10 c = some (c.toNat - 48) := by
  have hbounds : 48 ≤ c.toNat ∧ c.toNat ≤ 57 := by simpa [Char.isDigit, UInt32.le_iff_toNat_le] using h
  have hle (a b : Char) : a ≤ b ↔ a.toNat ≤ b.toNat := UInt32.le_iff_toNat_le
  have hvalue : baseDigitValue c = some (c.toNat - 48) := by
    unfold baseDigitValue digitValue
    rw [if_neg, if_neg, if_pos]
    · exact ⟨(hle _ _).mpr hbounds.1, (hle _ _).mpr hbounds.2⟩
    · rintro ⟨hupper, -⟩
      have habove : 65 ≤ c.toNat := (hle _ _).mp hupper
      omega
    · rintro ⟨hlower, -⟩
      have habove : 97 ≤ c.toNat := (hle _ _).mp hlower
      omega
  rw [digitIn, hvalue]
  exact if_pos (by omega)

/-- Decimal digits spell their values. -/
theorem spells_of_isDigit {cs : List Char} (hne : cs ≠ []) (h : ∀ c ∈ cs, c.isDigit = true) :
    Spells 10 cs (cs.map fun c => c.toNat - 48) := by
  induction cs with
  | nil => exact absurd rfl hne
  | cons c rest ih =>
    obtain ⟨hc, hrest⟩ := List.forall_mem_cons.mp h
    by_cases hnil : rest = []
    · subst hnil
      exact .one (digitIn_of_isDigit hc)
    · exact .next (digitIn_of_isDigit hc) (ih hnil hrest)

/-- A number that is printed is spelled. -/
theorem spells_toDigits (n : Nat) :
    ∃ ds, Spells 10 (Nat.toDigits 10 n) ds ∧ ds.length = (Nat.toDigits 10 n).length ∧ numberOf 10 ds = n := by
  have hdigits : ∀ c ∈ Nat.toDigits 10 n, c.isDigit = true := fun c hc =>
    Nat.isDigit_of_mem_toDigits (by decide) (by decide) hc
  refine ⟨_, spells_of_isDigit Nat.toDigits_ne_nil hdigits, List.length_map _, ?_⟩
  calc numberOf 10 ((Nat.toDigits 10 n).map fun c => c.toNat - 48)
      = Nat.ofDigitChars 10 (Nat.toDigits 10 n) 0 := by
        unfold numberOf numberFrom Nat.ofDigitChars
        rw [List.foldl_map]
        simp only [Nat.mul_comm]
        rfl
    _ = n := Nat.ofDigitChars_toDigits (by decide) (by decide)

/-- **An integer that is printed** with no more digits than the limit is read back. -/
theorem numeral_intText {n : Int} (short : n.natAbs.repr.length ≤ digitLimit) : Numeral (intText n).toList n := by
  obtain ⟨ds, hspells, hlength, hnumber⟩ := spells_toDigits n.natAbs
  have hshort : ds.length ≤ digitLimit := by
    rw [hlength, ← Nat.toList_repr]
    exact short
  unfold intText
  split
  · rename_i hneg
    have hn : n = -(numberOf 10 ds : Int) := by omega
    rw [String.toList_append, Nat.toList_repr]
    nth_rewrite 2 [hn]
    exact .minus hspells hshort
  · rename_i hnonneg
    have hn : n = numberOf 10 ds := by omega
    rw [Nat.toList_repr]
    nth_rewrite 2 [hn]
    exact .bare hspells hshort

/-- There is nothing to trim around an integer that is printed. -/
theorem bare_intText (n : Int) : Bare isBlank (intText n).toList := by
  have hdigits : ∀ c ∈ Nat.toDigits 10 n.natAbs, isBlank c = false := fun c hc =>
    isBlank_of_isDigit (Nat.isDigit_of_mem_toDigits (by decide) (by decide) hc)
  have hall : ∀ c ∈ (intText n).toList, isBlank c = false := by
    unfold intText
    split
    · rw [String.toList_append, Nat.toList_repr]
      exact List.forall_mem_cons.mpr ⟨by decide, hdigits⟩
    · rw [Nat.toList_repr]
      exact hdigits
  exact fun h => ⟨hall _ (List.head_mem h), hall _ (List.getLast_mem h)⟩

theorem intText_ne_nil (n : Int) : (intText n).toList ≠ [] := by
  unfold intText
  split
  · rw [String.toList_append]
    exact List.cons_ne_nil _ _
  · rw [Nat.toList_repr]
    exact Nat.toDigits_ne_nil

theorem numberFrom_lt {base : Nat} {ds : List Nat} (h : ∀ d ∈ ds, d < base) (number : Nat) :
    numberFrom base number ds < (number + 1) * base ^ ds.length := by
  induction ds generalizing number with
  | nil => simp [numberFrom]
  | cons d ds ih =>
    obtain ⟨hd, hds⟩ := List.forall_mem_cons.mp h
    have hstep : number * base + d + 1 ≤ (number + 1) * base := by
      rw [Nat.add_mul, Nat.one_mul]
      omega
    calc numberFrom base (number * base + d) ds
        < (number * base + d + 1) * base ^ ds.length := ih hds _
      _ ≤ (number + 1) * base * base ^ ds.length := Nat.mul_le_mul_right _ hstep
      _ = (number + 1) * base ^ (ds.length + 1) := by rw [Nat.pow_succ, Nat.mul_assoc, Nat.mul_comm base]

/-- **An integer that is read** can be printed with no more digits than the limit. -/
theorem Numeral.printable {cs : List Char} {n : Int} (h : Numeral cs n) : n.natAbs.repr.length ≤ digitLimit := by
  have hprinted : ∀ {ds : List Nat} {cs : List Char}, Spells 10 cs ds → ds.length ≤ digitLimit →
      (numberOf 10 ds).repr.length ≤ digitLimit := by
    intro ds cs hspells hshort
    have hlt : numberOf 10 ds < 10 ^ ds.length := by
      have hbound := numberFrom_lt hspells.lt 0
      rwa [Nat.zero_add, Nat.one_mul] at hbound
    have hlength := Nat.repr_length _ _ (List.length_pos_iff.mpr hspells.ne_nil) hlt
    exact hlength.trans hshort
  cases h with
  | bare hspells hshort | plus hspells hshort => exact hprinted hspells hshort
  | minus hspells hshort =>
    rw [Int.natAbs_neg]
    exact hprinted hspells hshort

end Whole

end TopicReader
