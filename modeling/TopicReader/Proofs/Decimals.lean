import TopicReader.Value.Text

/-!
# `Proofs.Decimals` — printed numbers have the form of decimal numbers

An integer is printed by its digits, a binary64 number by the fewest digits that read back, positional or with an
exponent. Here it is shown that what is printed always has one form: a sign, a whole part that starts with a zero only
if it is one, a fraction and an exponent. For binary64 numbers that rests on the search for digits, which never finds
zero for a number that is none.

## Contents
- **The form.** `IsWhole`, `IsFraction`, `IsExponent`, and `IsNumber`.
- **Digits.** `exists_digits_of_pos` and `isWhole_digitsOf`: printed naturals.
- **The search.** `shortest_pos`.
- **Texts.** `isNumber_intText` and `isNumber_text`.
-/

namespace TopicReader

/-- What holds of each of some characters, as one test of the list. -/
theorem Text.forall_mem_of_all {p : Char → Prop} [DecidablePred p] {cs : List Char}
    (h : cs.all (fun c => decide (p c)) = true) : ∀ c ∈ cs, p c := fun c hc =>
  of_decide_eq_true (List.all_eq_true.mp h c hc)

/-! ## The form -/

/-- Nothing but digits. -/
def AreDigits (ds : List Char) : Prop := ∀ c ∈ ds, c.isDigit = true

/-- **A whole part**: a zero, or digits of which the first one is none. -/
inductive IsWhole : List Char → Prop where
  | zero : IsWhole ['0']
  | positive {c : Char} {ds : List Char} (digit : c.isDigit = true) (nonzero : c ≠ '0') (more : AreDigits ds) :
      IsWhole (c :: ds)

/-- **A fraction**: nothing, or digits behind a point. -/
inductive IsFraction : List Char → Prop where
  | absent : IsFraction []
  | digits {ds : List Char} (present : ds ≠ []) (digits : AreDigits ds) : IsFraction ('.' :: ds)

/-- **An exponent**: nothing, or digits behind a mark and perhaps a sign. -/
inductive IsExponent : List Char → Prop where
  | absent : IsExponent []
  | digits {mark : Char} {sign ds : List Char} (marked : mark = 'e' ∨ mark = 'E')
      (signed : sign = [] ∨ sign = ['+'] ∨ sign = ['-']) (present : ds ≠ []) (digits : AreDigits ds) :
      IsExponent (mark :: (sign ++ ds))

/-- **A decimal number**: perhaps a sign, a whole part, a fraction and an exponent. -/
inductive IsNumber : List Char → Prop where
  | parts {sign whole fraction exponent : List Char} (signed : sign = [] ∨ sign = ['-']) (isWhole : IsWhole whole)
      (isFraction : IsFraction fraction) (isExponent : IsExponent exponent) :
      IsNumber (sign ++ (whole ++ fraction ++ exponent))

/-- A character that a number may hold. -/
def IsNumberChar (c : Char) : Prop := c.isDigit = true ∨ c ∈ ['-', '+', '.', 'e', 'E']

theorem IsWhole.areDigits {cs : List Char} (h : IsWhole cs) : AreDigits cs := by
  cases h with
  | zero => exact Text.forall_mem_of_all (by decide)
  | positive digit _ more => exact List.forall_mem_cons.mpr ⟨digit, more⟩

/-- There is nothing else in a number. -/
theorem IsNumber.isNumberChar {cs : List Char} (h : IsNumber cs) : ∀ c ∈ cs, IsNumberChar c := by
  obtain ⟨signed, hwhole, hfraction, hexponent⟩ := h
  have hof {ds : List Char} (h : AreDigits ds) : ∀ c ∈ ds, IsNumberChar c := fun c hc => .inl (h c hc)
  refine List.forall_mem_append.mpr ⟨?_, List.forall_mem_append.mpr
    ⟨List.forall_mem_append.mpr ⟨hof hwhole.areDigits, ?_⟩, ?_⟩⟩
  · rcases signed with rfl | rfl
    · exact List.forall_mem_nil _
    · exact List.forall_mem_singleton.mpr (.inr (by decide))
  · cases hfraction with
    | absent => exact List.forall_mem_nil _
    | digits _ digits => exact List.forall_mem_cons.mpr ⟨.inr (by decide), hof digits⟩
  · cases hexponent with
    | absent => exact List.forall_mem_nil _
    | digits marked signed _ digits =>
      refine List.forall_mem_cons.mpr ⟨.inr ?_, List.forall_mem_append.mpr ⟨?_, hof digits⟩⟩
      · rcases marked with rfl | rfl <;> decide
      · rcases signed with rfl | rfl | rfl
        · exact List.forall_mem_nil _
        · exact List.forall_mem_singleton.mpr (.inr (by decide))
        · exact List.forall_mem_singleton.mpr (.inr (by decide))

namespace Double

/-! ## Digits -/

theorem areDigits_digitsOf (n : Nat) : AreDigits (digitsOf n) := fun c hc => by
  rw [digitsOf, Nat.toList_repr] at hc
  exact Nat.isDigit_of_mem_toDigits (by decide) (by decide) hc

/-- A positive number starts with a digit that is not zero. -/
theorem exists_digits_of_pos (n : Nat) (h : 0 < n) : ∃ c ds, digitsOf n = c :: ds ∧ c ≠ '0' := by
  unfold digitsOf
  rw [Nat.toList_repr]
  induction n using Nat.strongRecOn with
  | ind n ih =>
    by_cases hsmall : n < 10
    · have hdigit : ∀ k < 10, 0 < k → Nat.digitChar k ≠ '0' := by decide
      exact ⟨n.digitChar, [], Nat.toDigits_of_lt_base hsmall, hdigit n hsmall h⟩
    · have hlarge : 10 ≤ n := Nat.le_of_not_lt hsmall
      obtain ⟨c, ds, hdigits, hc⟩ := ih (n / 10) (by omega) (by omega)
      refine ⟨c, ds ++ [(n % 10).digitChar], ?_, hc⟩
      rw [Nat.toDigits_of_base_le (by decide) hlarge, hdigits, List.cons_append]

theorem isWhole_digitsOf (n : Nat) : IsWhole (digitsOf n) := by
  rcases Nat.eq_zero_or_pos n with rfl | hpos
  · exact .zero
  · obtain ⟨c, ds, hdigits, hc⟩ := exists_digits_of_pos n hpos
    have hall := areDigits_digitsOf n
    rw [hdigits] at hall ⊢
    obtain ⟨hfirst, hmore⟩ := List.forall_mem_cons.mp hall
    exact .positive hfirst hc hmore

theorem areDigits_zeros (n : Nat) : AreDigits (List.replicate n '0') := fun c hc => by
  rw [List.eq_of_mem_replicate hc]
  rfl

theorem isExponent_exponentText (e : Int) : IsExponent (exponentText e) := by
  have hdigits : AreDigits (Text.decimalPadded 2 e.natAbs) :=
    List.forall_mem_append.mpr ⟨areDigits_zeros _, areDigits_digitsOf _⟩
  have hpresent : Text.decimalPadded 2 e.natAbs ≠ [] := by
    unfold Text.decimalPadded
    rw [Nat.toList_repr]
    exact List.append_ne_nil_of_right_ne_nil _ (List.ne_nil_of_length_pos Nat.length_toDigits_pos)
  unfold exponentText
  by_cases hnegative : e < 0
  · rw [if_pos hnegative]
    exact .digits (.inl rfl) (.inr (.inr rfl)) hpresent hdigits
  · rw [if_neg hnegative]
    exact .digits (.inl rfl) (.inr (.inl rfl)) hpresent hdigits

/-! ## The search -/

theorem tenPower_pos (k : Int) : 0 < (tenPower k).2 := by
  unfold tenPower
  split
  · exact Nat.one_pos
  · exact Nat.pow_pos (by decide)

theorem ratioOf_pos {m : Nat} (h : 0 < m) (e : Int) : 0 < (ratioOf m e).1 := by
  unfold ratioOf
  split
  · exact Nat.mul_pos h (Nat.pow_pos (by decide))
  · exact h

/-- The interval of a number that is not zero is above zero. -/
theorem interval_low_pos {m : Nat} (h : 0 < m) (e : Int) : 0 < (interval m e).low := by
  have hratio : 0 < (ratioOf 1 (e - 2)).1 := ratioOf_pos Nat.one_pos _
  unfold interval
  dsimp only
  refine Nat.mul_pos ?_ hratio
  split <;> omega

theorem not_holds_zero {i : Interval} (h : 0 < i.low) {den : Nat} (hden : 0 < den) : i.holds 0 den = false := by
  have hlow : 0 < i.low * den := Nat.mul_pos h hden
  unfold Interval.holds
  rw [Nat.zero_mul]
  split
  · simp
    omega
  · simp

theorem digitsAt_pos {i : Interval} (h : 0 < i.low) {power : Int} {d : Decimal} (hd : digitsAt i power = some d) :
    0 < d.digits := by
  obtain ⟨n, hfound, rfl⟩ := Option.map_eq_some_iff.mp hd
  have hholds := List.find?_some hfound
  rcases Nat.eq_zero_or_pos n with rfl | hpos
  · rw [Nat.zero_mul, not_holds_zero h (tenPower_pos power)] at hholds
    cases hholds
  · exact hpos

theorem searchDigits_pos {i : Interval} (h : 0 < i.low) {exponent : Int} {d : Decimal} (fuel count : Nat)
    (hd : searchDigits i exponent fuel count = some d) : 0 < d.digits := by
  induction fuel generalizing count with
  | zero => cases hd
  | succ fuel ih =>
    unfold searchDigits at hd
    cases hhit : digitsAt i (exponent - count) with
    | some found =>
      rw [hhit] at hd
      cases hd
      exact digitsAt_pos h hhit
    | none =>
      rw [hhit] at hd
      exact ih (count + 1) hd

theorem normalize_pos {d : Decimal} (h : 0 < d.digits) (fuel : Nat) : 0 < (d.normalize fuel).digits := by
  induction fuel generalizing d with
  | zero => exact h
  | succ fuel ih =>
    unfold Decimal.normalize
    by_cases hround : d.digits ≠ 0 ∧ d.digits % 10 = 0
    · rw [if_pos hround]
      refine ih ?_
      show 0 < d.digits / 10
      omega
    · rw [if_neg hround]
      exact h

/-- **The shortest digits** of a number that is not zero are not zero. -/
theorem shortest_pos {m : Nat} (h : 0 < m) (e : Int) : 0 < (shortest m e).digits := by
  unfold shortest
  refine normalize_pos ?_ 20
  cases hsearch : searchDigits (interval m e) (decimalExponent (ratioOf m e).1 (ratioOf m e).2) 17 1 with
  | some d => exact searchDigits_pos (interval_low_pos h e) 17 1 hsearch
  | none => exact ratioOf_pos h e

/-! ## Texts -/

section

variable {c : Char} {ds : List Char} (digit : c.isDigit = true) (nonzero : c ≠ '0') (more : AreDigits ds)

include digit nonzero more

/-- Digits with a point somewhere are a whole part and further digits, with zeros where the digits do not reach. -/
theorem isWhole_positional (point : Int) :
    IsWhole (positional (c :: ds) point).1 ∧ AreDigits (positional (c :: ds) point).2 := by
  have hall : AreDigits (c :: ds) := List.forall_mem_cons.mpr ⟨digit, more⟩
  unfold positional
  by_cases hsmall : point ≤ 0
  · rw [if_pos hsmall]
    exact ⟨.zero, List.forall_mem_append.mpr ⟨areDigits_zeros _, hall⟩⟩
  · rw [if_neg hsmall]
    obtain ⟨n, hn⟩ : ∃ n, point.toNat = n + 1 := ⟨point.toNat - 1, by omega⟩
    dsimp only
    rw [hn, List.take_succ_cons, List.drop_succ_cons, List.cons_append]
    have htaken : AreDigits (ds.take n) := fun e he => more e (List.mem_of_mem_take he)
    have hdropped : AreDigits (ds.drop n) := fun e he => more e (List.mem_of_mem_drop he)
    exact ⟨.positive digit nonzero (List.forall_mem_append.mpr ⟨htaken, areDigits_zeros _⟩), hdropped⟩

end

/-- A positive decimal is laid out as a number without a sign. -/
theorem layoutPlain_parts {d : Decimal} (h : 0 < d.digits) :
    ∃ whole fraction exponent, IsWhole whole ∧ IsFraction fraction ∧ IsExponent exponent
      ∧ layoutPlain d = whole ++ fraction ++ exponent := by
  obtain ⟨c, ds, hdigits, hc⟩ := exists_digits_of_pos d.digits h
  have hall := areDigits_digitsOf d.digits
  rw [hdigits] at hall
  obtain ⟨hfirst, hmore⟩ := List.forall_mem_cons.mp hall
  unfold layoutPlain
  dsimp only
  rw [hdigits]
  generalize ((c :: ds).length : Int) + d.power = point
  by_cases hplain : -4 < point ∧ point ≤ 16
  · rw [if_pos hplain]
    obtain ⟨hwhole, hbehind⟩ := isWhole_positional hfirst hc hmore point
    generalize positional (c :: ds) point = parts at hwhole hbehind
    have hfraction : IsFraction ('.' :: if parts.2.isEmpty then ['0'] else parts.2) := by
      by_cases hempty : parts.2.isEmpty = true
      · rw [if_pos hempty]
        exact .digits (List.cons_ne_nil _ _) (Text.forall_mem_of_all (by decide))
      · rw [if_neg hempty]
        exact .digits (fun hnil => hempty (List.isEmpty_iff.mpr hnil)) hbehind
    exact ⟨parts.1, _, [], hwhole, hfraction, .absent, (List.append_nil _).symm⟩
  · rw [if_neg hplain]
    have hfraction : IsFraction (if (c :: ds).length = 1 then [] else '.' :: (c :: ds).drop 1) := by
      cases ds with
      | nil => exact .absent
      | cons e rest => exact .digits (List.cons_ne_nil _ _) hmore
    exact ⟨[c], _, _, .positive hfirst hc (List.forall_mem_nil _), hfraction, isExponent_exponentText _, rfl⟩

/-- **A finite number is printed as a number.** -/
theorem isNumber_text {x : Double} (h : x.isFinite = true) : IsNumber x.text.toList := by
  cases x with
  | nan => cases h
  | infinite negative => cases h
  | finite negative m e =>
    have hsign : signOf negative = [] ∨ signOf negative = ['-'] := by cases negative <;> simp [signOf]
    cases m with
    | zero =>
      show IsNumber (String.ofList (signOf negative ++ "0.0".toList)).toList
      rw [String.toList_ofList]
      have hzero : "0.0".toList = ['0'] ++ ['.', '0'] ++ [] := by decide
      rw [hzero]
      exact .parts hsign .zero (.digits (List.cons_ne_nil _ _) (Text.forall_mem_of_all (by decide))) .absent
    | succ m =>
      show IsNumber (String.ofList (signOf negative ++ layoutPlain (shortest (m + 1) e))).toList
      rw [String.toList_ofList]
      obtain ⟨whole, fraction, exponent, hwhole, hfraction, hexponent, hlayout⟩ :=
        layoutPlain_parts (shortest_pos (Nat.succ_pos m) e)
      rw [hlayout]
      exact .parts hsign hwhole hfraction hexponent

end Double

/-- **An integer is printed as a number.** -/
theorem isNumber_intText (n : Int) : IsNumber (intText n).toList := by
  have hparts {sign : List Char} (hsign : sign = [] ∨ sign = ['-']) : IsNumber (sign ++ n.natAbs.repr.toList) := by
    have hnumber := IsNumber.parts hsign (Double.isWhole_digitsOf n.natAbs) .absent .absent
    rw [List.append_nil, List.append_nil] at hnumber
    exact hnumber
  unfold intText
  split
  · rw [String.toList_append]
    exact hparts (.inr rfl)
  · exact hparts (.inl rfl)

end TopicReader
