import TopicReader.Proofs.Numerals
import TopicReader.Proofs.Settings.Properties

/-!
# `Proofs.Settings.Typed` — a typed value and its text set the same property

The file gives properties values that have a kind already, and the command line gives texts only. Which values are
read as their kind is decided by one function for both, so a value that the file holds as a truth value or an integer
comes to the same when the command line spells it. That rests on the integer reader, which reads back what the
integer printer prints, and on the words for truth values, which are looked for in lower case.

## Contents
- **Printed integers.** `Text.lower_intText`, `Whole.read_intText`, and `Value.holdsLong_int_iff`: which integers can be
  printed at all.
- **Values that can be spelled.** `Value.Spelled`, and `Property.coerced_shown`.
- **The law.** `Property.ofArgument_spelled`; `Property.coerce_coerce`: what has been read as its kind stays as it is;
  `Property.argument_means_entry`.
-/

namespace TopicReader

open TopicReader.Text

/-! ## Printed integers -/

namespace Text

/-- A character that no text in lower case differs in: of the ASCII range, and no capital letter. -/
def IsPlain (c : Char) : Prop := c.toNat < 0x80 ∧ ¬ ('A' ≤ c ∧ c ≤ 'Z')

theorem lowerAfter_cons_of_isPlain {c : Char} (h : IsPlain c) (before rest : List Char) :
    lowerAfter before (c :: rest) = c :: lowerAfter (c :: before) rest := by
  obtain ⟨hascii, hcapital⟩ := h
  have hdotted : c.toNat ≠ 0x130 := by omega
  have hsigma : c.toNat ≠ 0x3a3 := by omega
  rw [lowerAfter, if_neg hdotted, if_neg hsigma, lowerOne, if_pos hascii, if_neg hcapital]
  rfl

/-- Lower case leaves plain characters alone, whatever stands before them. -/
theorem lowerAfter_append_of_isPlain {cs : List Char} (h : ∀ c ∈ cs, IsPlain c) (before more : List Char) :
    lowerAfter before (cs ++ more) = cs ++ lowerAfter (cs.reverse ++ before) more := by
  induction cs generalizing before with
  | nil => rfl
  | cons c rest ih =>
    obtain ⟨hc, hrest⟩ := List.forall_mem_cons.mp h
    rw [List.cons_append, lowerAfter_cons_of_isPlain hc, ih hrest, List.reverse_cons, List.append_assoc]
    rfl

theorem lowerAfter_of_isPlain {cs : List Char} (h : ∀ c ∈ cs, IsPlain c) (before : List Char) :
    lowerAfter before cs = cs := by
  have happend := lowerAfter_append_of_isPlain h before []
  rwa [List.append_nil, lowerAfter, List.append_nil] at happend

theorem isPlain_of_isDigit {c : Char} (h : c.isDigit = true) : IsPlain c := by
  have hbounds : 48 ≤ c.toNat ∧ c.toNat ≤ 57 := by simpa [Char.isDigit, UInt32.le_iff_toNat_le] using h
  refine ⟨by omega, ?_⟩
  rintro ⟨hupper, -⟩
  have habove : 65 ≤ c.toNat := UInt32.le_iff_toNat_le.mp hupper
  omega

/-- The characters of a printed integer: its digits, and a sign where it has one. -/
theorem of_mem_intText {p : Char → Prop} (hsign : p '-') (hdigit : ∀ c, c.isDigit = true → p c) (n : Int) :
    ∀ c ∈ (intText n).toList, p c := by
  have hdigits : ∀ c ∈ Nat.toDigits 10 n.natAbs, p c := fun c hc =>
    hdigit c (Nat.isDigit_of_mem_toDigits (by decide) (by decide) hc)
  unfold intText
  split
  · rw [String.toList_append, Nat.toList_repr]
    exact List.forall_mem_cons.mpr ⟨hsign, hdigits⟩
  · rw [Nat.toList_repr]
    exact hdigits

/-- A printed integer is in lower case already. -/
theorem lower_intText (n : Int) : lower (intText n) = intText n := by
  have hplain : ∀ c ∈ (intText n).toList, IsPlain c :=
    of_mem_intText ⟨by decide, by decide⟩ (fun _ => isPlain_of_isDigit) n
  rw [lower, lowerAfter_of_isPlain hplain, String.ofList_toList]

/-- There is nothing to trim around a text that is bare. -/
theorem trimText_of_bare {s : String} (hne : s.toList ≠ []) (h : Bare isBlank s.toList) : trimText s = s := by
  have htrim : trim ([] ++ s.toList ++ []) = s.toList :=
    trim_append (List.forall_mem_nil _) (List.forall_mem_nil _) hne h
  rw [List.nil_append, List.append_nil] at htrim
  rw [trimText, htrim, String.ofList_toList]

end Text

namespace Whole

/-- **An integer is read back** from its printed text, if that has no more digits than the limit. -/
theorem read_intText {n : Int} (short : n.natAbs.repr.length ≤ digitLimit) : read (intText n) = .ok n := by
  have htrimmed : trimText (intText n) = intText n := trimText_of_bare (intText_ne_nil n) (bare_intText n)
  have hread := read_trimText_ok_iff.mpr (show Numeral (trim (intText n).toList) n by
    rw [← String.toList_ofList (l := trim (intText n).toList)]
    show Numeral (trimText (intText n)).toList n
    rw [htrimmed]
    exact numeral_intText short)
  rwa [htrimmed] at hread

end Whole

namespace Value

theorem longBound_eq : longBound = 10 ^ Whole.digitLimit := by
  unfold longBound
  generalize Whole.digitLimit = limit
  rfl

/-- **An integer can be printed** exactly if it has no more digits than the limit. -/
theorem holdsLong_int_iff (n : Int) : (Value.int n).holdsLong = false ↔ n.natAbs.repr.length ≤ Whole.digitLimit := by
  have hbound : (Value.int n).holdsLong = false ↔ n.natAbs < 10 ^ Whole.digitLimit := by
    rw [holdsLong, decide_eq_false_iff_not, Nat.not_le, longBound_eq]
  rw [hbound]
  constructor
  · exact Nat.repr_length _ _ (by decide)
  · intro hshort
    obtain ⟨ds, hspells, hlength, hnumber⟩ := Whole.spells_toDigits n.natAbs
    have hlt := Whole.numberFrom_lt hspells.lt 0
    rw [Nat.zero_add, Nat.one_mul] at hlt
    rw [← hnumber]
    refine Nat.lt_of_lt_of_le hlt (Nat.pow_le_pow_right (by decide) ?_)
    rw [hlength, ← Nat.toList_repr]
    exact hshort

end Value

/-- **An integer that is read** is short enough to be written out again. -/
theorem Whole.read_short {s : String} {n : Int} (h : read s = .ok n) : (Value.int n).holdsLong = false :=
  (Value.holdsLong_int_iff n).mpr (readSigned_ok_iff.mp h).printable

namespace Value

/-! ## Values that can be spelled -/

/-- **A value that the command line can spell**: a text, a truth value, or an integer with no more digits than the
    limit. -/
inductive Spelled : Value → Prop where
  | text (s : String) : Spelled (.text s)
  | bool (b : Bool) : Spelled (.bool b)
  | int (n : Int) (short : n.natAbs.repr.length ≤ Whole.digitLimit) : Spelled (.int n)

theorem Spelled.holdsLong {v : Value} (h : Spelled v) : v.holdsLong = false := by
  cases h with
  | text s => rfl
  | bool b => rfl
  | int n short => exact (holdsLong_int_iff n).mpr short

end Value

namespace Property

/-- The printed text of an integer is no word for a truth value, and is read as the integer. -/
theorem coerceText_intText {n : Int} (short : n.natAbs.repr.length ≤ Whole.digitLimit) :
    coerceText (intText n) = .int n := by
  have hword : lower (trimText (intText n)) = intText n := by
    rw [trimText_of_bare (Whole.intText_ne_nil n) (Whole.bare_intText n), lower_intText]
  -- Neither word starts like an integer.
  have hfirst : ∀ c ∈ (intText n).toList, c ≠ 't' ∧ c ≠ 'f' := by
    refine of_mem_intText (by decide) (fun c hc => ?_) n
    constructor
    · rintro rfl
      cases hc
    · rintro rfl
      cases hc
  have htrue : intText n ≠ "true" := fun h => (hfirst 't' (by rw [h]; decide)).1 rfl
  have hfalse : intText n ≠ "false" := fun h => (hfirst 'f' (by rw [h]; decide)).2 rfl
  simp only [coerceText, hword, if_neg htrue, if_neg hfalse, Whole.read_intText short]

/-- The text of a truth value is one of the words. -/
theorem coerceText_bool (b : Bool) : coerceText (Value.bool b).shown = .bool b := by
  have hword : lower (trimText (Value.bool b).shown) = if b then "true" else "false" := by
    cases b <;> decide +kernel
  simp only [coerceText, hword]
  cases b <;> rfl

/-- **The text of a value comes to what the value comes to**, under every key. -/
theorem coerced_shown {v : Value} (h : v.Spelled) (key : String) :
    coerced key (.text v.shown) = coerced key v := by
  unfold coerced
  by_cases hkey : texts.contains key = true
  · rw [if_pos hkey, if_pos hkey]
    rfl
  · rw [if_neg hkey, if_neg hkey]
    cases h with
    | text s => rfl
    | bool b => exact coerceText_bool b
    | int n short => exact coerceText_intText short

/-! ## The law -/

/-- A blank name is the name of no property. -/
theorem not_accepts_of_blank {name : String} (h : name.toList.all isBlank = true) : ¬ Accepts name := by
  have hempty : trim name.toList = [] := by
    rw [← List.isEmpty_iff, trim_isEmpty, h]
  have hkey : normalize name = "" := by
    unfold normalize bareName
    rw [hempty]
    decide
  unfold Accepts
  rw [hkey]
  decide +kernel

/-- An argument is cut where its name ends, if there is no equals sign in the name. -/
theorem halves?_append {name : String} (h : '=' ∉ name.toList) (value : String) :
    halves? (name ++ "=" ++ value) = some (name, value) := by
  have hname : ∀ c ∈ name.toList, (c != '=') = true := fun c hc => bne_iff_ne.mpr fun heq => h (heq ▸ hc)
  have hlist : (name ++ "=" ++ value).toList = name.toList ++ '=' :: value.toList := by
    rw [String.toList_append, String.toList_append, List.append_assoc]
    rfl
  unfold halves?
  rw [hlist, if_pos (List.mem_append_right _ List.mem_cons_self), List.takeWhile_append_of_pos hname,
    List.dropWhile_append_of_pos hname, List.takeWhile_cons_of_neg (by decide), List.dropWhile_cons_of_neg (by decide),
    List.append_nil, List.tail_cons, String.ofList_toList, String.ofList_toList]

section

variable {name : String} {v : Value}

/-- **An argument that spells a value** sets what the value sets, if its name is accepted. -/
theorem ofArgument_spelled (h : '=' ∉ name.toList) (hv : v.Spelled) (hname : Accepts name) :
    ofArgument (name ++ "=" ++ v.shown) = .ok (normalize name, coerced (normalize name) v) := by
  have hnot : ¬ name.toList.all isBlank = true := fun hblank => not_accepts_of_blank hblank hname
  rw [ofArgument_eq, halves?_append h]
  dsimp only
  rw [if_neg hnot, ofPair_of_accepts hname (Value.Spelled.text _).holdsLong, coerced_shown hv]

/-- An argument is refused, whatever it spells, if its name is not accepted. -/
theorem ofArgument_refused (h : '=' ∉ name.toList) (hname : ¬ Accepts name) :
    ∃ m, ofArgument (name ++ "=" ++ v.shown) = .error (.misconfigured m) := by
  refine ofArgument_of_not_accepts ?_
  rintro ⟨other, value, hother, -, haccepts⟩
  have hhalves := (halves?_append h v.shown).symm.trans hother
  cases hhalves
  exact hname haccepts

end

/-- A text that is read as a text is the same text: what is trimmed around it and its case only matter for words. -/
theorem eq_of_coerceText_text {s t : String} (h : coerceText s = .text t) : t = s := by
  unfold coerceText at h
  dsimp only at h
  by_cases htrue : lower (trimText s) = "true"
  · rw [if_pos htrue] at h
    cases h
  · rw [if_neg htrue] at h
    by_cases hfalse : lower (trimText s) = "false"
    · rw [if_pos hfalse] at h
      cases h
    · rw [if_neg hfalse] at h
      cases hread : Whole.read s with
      | ok n =>
        rw [hread] at h
        cases h
      | error e =>
        rw [hread] at h
        cases h
        rfl

/-- **What has been read as its kind** is not read again. -/
theorem coerce_coerce {key : String} {v w : Value} (h : coerce key v = .ok w) : coerce key w = .ok w := by
  unfold coerce at h ⊢
  by_cases hkey : texts.contains key = true
  · rw [if_pos hkey] at h ⊢
    obtain ⟨shown, -, rfl⟩ := map_eq_ok_iff.mp h
    rw [Value.showChecked_eq (Value.Spelled.text shown).holdsLong]
    rfl
  · rw [if_neg hkey] at h ⊢
    cases v with
    | text s =>
      have hw : coerceText s = w := Except.ok.inj h
      cases w with
      | text t =>
        obtain rfl : t = s := eq_of_coerceText_text hw
        exact congrArg Except.ok hw
      | _ => rfl
    | _ =>
      cases h
      rfl

/-- **The command line and the file mean the same.** For a name without an equals sign and a value that is a text, a
    truth value or an integer that can be printed, the argument that spells the value and the entry that holds it are
    both wrong settings, or both set the same value, of the same kind, under the same key; and a value that was read
    as its key asks stays as it is when it is read again. -/
theorem argument_means_entry (name : String) (h : '=' ∉ name.toList) (v : Value) (hv : v.Spelled) :
    ((∃ p, ofArgument (name ++ "=" ++ v.shown) = .ok p ∧ ofPair name v = .ok p)
        ∨ ∃ m other, ofArgument (name ++ "=" ++ v.shown) = .error (.misconfigured m)
          ∧ ofPair name v = .error (.misconfigured other))
      ∧ ∀ key (raw made : Value), coerce key raw = .ok made → coerce key made = .ok made := by
  refine ⟨?_, fun key raw made => coerce_coerce⟩
  by_cases hname : Accepts name
  · exact .inl ⟨_, ofArgument_spelled h hv hname, ofPair_of_accepts hname hv.holdsLong⟩
  · obtain ⟨m, hrefused⟩ := ofArgument_refused (v := v) h hname
    exact .inr ⟨m, _, hrefused, ofPair_of_not_accepts hname v⟩

/-- An integer of the file under one spelling of its name: the argument sets the integer, not its text. -/
theorem argument_means_entry_of_integer :
    ∃ p, ofArgument (" topic.Fetch.Min-Bytes" ++ "=" ++ (Value.int (-120)).shown) = .ok p
      ∧ ofPair " topic.Fetch.Min-Bytes" (.int (-120)) = .ok p ∧ p.1 = "fetch_min_bytes" := by
  have hshort : (-120 : Int).natAbs.repr.length ≤ Whole.digitLimit := by decide +kernel
  have hlaw := argument_means_entry " topic.Fetch.Min-Bytes" (by decide) (.int (-120)) (.int _ hshort)
  have haccepts : Accepts " topic.Fetch.Min-Bytes" := by decide +kernel
  have hmade := ofPair_of_accepts haccepts (Value.Spelled.int (-120) hshort).holdsLong
  rcases hlaw.1 with ⟨p, hargument, hpair⟩ | ⟨m, other, -, hrefused⟩
  · refine ⟨p, hargument, hpair, ?_⟩
    cases hmade.symm.trans hpair
    decide +kernel
  · cases hmade.symm.trans hrefused

end Property

end TopicReader
