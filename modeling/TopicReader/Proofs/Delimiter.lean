import TopicReader.Delimiter
import TopicReader.Proofs.Layout
import TopicReader.Proofs.Numerals

/-!
# `Proofs.Delimiter` — which texts are delimiters

The grammar of delimiters is small: a character of the ASCII range, one of five escapes, or `\x` with two hexadecimal
digits. What stands behind `\x` is left to the reader of integers, though, and that one takes more than digits: padding,
a sign, and digits of other scripts. So there are texts outside the grammar that are read all the same. They are told
here, and that there are no others.

## Contents
- **The grammar.** `Delimiter.IsHex` and `Delimiter.Denotes`.
- **Two characters.** `Delimiter.Amounts`: the number that two characters come to for the reader of integers, and
  `Delimiter.ofHex?_eq_some_iff`.
- **Beyond the grammar.** `Delimiter.Lenient`, and that no text is in both.
- **The law.** `Delimiter.ofText_outcome`.
-/

namespace TopicReader

open TopicReader.Text

namespace Delimiter

/-! ## The grammar -/

/-- **A hexadecimal digit** of the ASCII range, in either case, and its value. -/
def IsHex (c : Char) (n : Nat) : Prop := n < 16 ∧ (c = hexDigit n ∨ c = (hexDigit n).toUpper)

/-- **The byte that a text denotes.** -/
inductive Denotes : List Char → UInt8 → Prop where
  | plain {c : Char} (ascii : c.toNat < 0x80) : Denotes [c] (UInt8.ofNat c.toNat)
  | lineFeed : Denotes [backslash, 'n'] 0x0a
  | tab : Denotes [backslash, 't'] 0x09
  | carriageReturn : Denotes [backslash, 'r'] 0x0d
  | nul : Denotes [backslash, '0'] 0x00
  | backslash : Denotes [backslash, backslash] 0x5c
  | hex {x y : Char} {m n : Nat} (high : IsHex x m) (low : IsHex y n) :
    Denotes [backslash, 'x', x, y] (UInt8.ofNat (m * 16 + n))

theorem ofEscape?_eq_some_iff {c : Char} {b : UInt8} : ofEscape? c = some b ↔ Denotes [backslash, c] b := by
  constructor
  · intro h
    obtain ⟨⟨letter, byte⟩, hfind, rfl⟩ := Option.map_eq_some_iff.mp h
    have hletter : (letter == c) = true := List.find?_some (p := fun e : Char × UInt8 => e.1 == c) hfind
    obtain rfl : letter = c := eq_of_beq hletter
    have hlisted := List.mem_of_find?_eq_some hfind
    simp only [escapes, List.mem_cons, List.not_mem_nil, or_false, Prod.mk.injEq] at hlisted
    rcases hlisted with ⟨rfl, rfl⟩ | ⟨rfl, rfl⟩ | ⟨rfl, rfl⟩ | ⟨rfl, rfl⟩ | ⟨rfl, rfl⟩ <;> constructor
  · intro h
    cases h <;> rfl

/-- A single character is one byte exactly if it is of the ASCII range. -/
theorem length_encode_single {text : String} {c : Char} (h : text.toList = [c]) :
    (Utf8.encode text).length = 1 ↔ c.toNat < 0x80 := by
  rw [Utf8.encode_eq, h, List.flatMap_singleton, String.length_utf8EncodeChar, Char.utf8Size_eq_one_iff,
    UInt32.le_iff_toNat_le]
  exact Nat.lt_succ_iff.symm

theorem encode_single {text : String} {c : Char} (h : text.toList = [c]) (ascii : c.toNat < 0x80) :
    Utf8.encode text = [UInt8.ofNat c.toNat] := by
  rw [Utf8.encode_eq, h, List.flatMap_singleton]
  exact if_pos (Nat.lt_succ_iff.mp ascii)

end Delimiter

/-! ## Two characters -/

namespace Whole

variable {base : Nat} {a b c : Char} {n : Nat}

theorem spells_single_iff {ds : List Nat} : Spells base [c] ds ↔ ∃ d, digitIn base c = some d ∧ ds = [d] := by
  constructor
  · intro h
    cases h with
    | one digit => exact ⟨_, digit, rfl⟩
    | next _ rest => cases rest
  · rintro ⟨d, hd, rfl⟩
    exact .one hd

theorem spells_pair_iff {ds : List Nat} :
    Spells base [a, b] ds ↔ ∃ high low, digitIn base a = some high ∧ digitIn base b = some low ∧ ds = [high, low] := by
  constructor
  · intro h
    cases h with
    | next digit rest =>
      obtain ⟨low, hlow, rfl⟩ := spells_single_iff.mp rest
      exact ⟨_, low, digit, hlow, rfl⟩
    | gap _ rest => cases rest
  · rintro ⟨high, low, hhigh, hlow, rfl⟩
    exact .next hhigh (.one hlow)

theorem readUnsigned_single_ok_iff : readUnsigned 16 [c] = .ok n ↔ digitIn 16 c = some n := by
  have hmark : dropBaseMark 16 [c] = (false, [c]) := dropBaseMark_of_unmarked fun d rest h => by cases h
  rw [readUnsigned_unmarked_ok_iff hmark]
  simp only [spells_single_iff]
  constructor
  · rintro ⟨ds, ⟨d, hd, rfl⟩, -, rfl⟩
    simpa [numberOf, numberFrom] using hd
  · intro hd
    exact ⟨[n], ⟨n, hd, rfl⟩, (absurd · (by decide)), by simp [numberOf, numberFrom]⟩

/-- The letter of the base mark is no digit. -/
theorem digitIn_of_toLower (h : c.toLower = 'x') : digitIn 16 c = none := by
  have hx : c = 'x' ∨ c = 'X' := by
    unfold Char.toLower at h
    split at h
    · rename_i hupper
      right
      have hbound : c.val.toNat ≤ 90 := UInt32.le_iff_toNat_le.mp hupper.2
      have hval : (c.val + 32).toNat = 120 := congrArg (fun d : Char => d.val.toNat) h
      rw [UInt32.toNat_add] at hval
      have hthirty : (32 : UInt32).toNat = 32 := rfl
      refine Char.ext (UInt32.toNat_inj.mp ?_)
      show c.val.toNat = 88
      omega
    · exact .inl h
  rcases hx with rfl | rfl <;> decide

theorem readUnsigned_pair_ok_iff :
    readUnsigned 16 [a, b] = .ok n
      ↔ ∃ high low, digitIn 16 a = some high ∧ digitIn 16 b = some low ∧ n = high * 16 + low := by
  by_cases hmark : a = '0' ∧ b.toLower = 'x'
  · -- A base mark has no digit behind it.
    obtain ⟨rfl, hx⟩ := hmark
    have hdrop : dropBaseMark 16 ['0', b] = (true, []) := if_pos (by rw [hx]; rfl)
    constructor
    · intro h
      unfold readUnsigned at h
      rw [hdrop] at h
      cases h
    · rintro ⟨high, low, -, hlow, -⟩
      rw [digitIn_of_toLower hx] at hlow
      cases hlow
  · have hdrop : dropBaseMark 16 [a, b] = (false, [a, b]) := by
      refine dropBaseMark_of_unmarked fun c rest hcons hbase => hmark ?_
      cases hcons
      exact ⟨rfl, (Option.some.inj hbase).symm⟩
    rw [readUnsigned_unmarked_ok_iff hdrop]
    simp only [spells_pair_iff]
    constructor
    · rintro ⟨ds, ⟨high, low, hhigh, hlow, rfl⟩, -, rfl⟩
      exact ⟨high, low, hhigh, hlow, by simp [numberOf, numberFrom]⟩
    · rintro ⟨high, low, hhigh, hlow, rfl⟩
      exact ⟨[high, low], ⟨high, low, hhigh, hlow, rfl⟩, (absurd · (by decide)), by simp [numberOf, numberFrom]⟩

/-- **One character** is read exactly if it is a digit. -/
theorem readSigned_single_ok_iff : readSigned 16 [c] = .ok (n : Int) ↔ digitIn 16 c = some n := by
  unfold readSigned
  split
  · rename_i hcons
    cases hcons
    constructor <;> intro h <;> cases h
  · rename_i hcons
    cases hcons
    constructor <;> intro h <;> cases h
  · rw [signed_ok_iff]
    simp [readUnsigned_single_ok_iff]

/-- **Two characters** are read as a number that is not negative exactly if they are digits, or a sign and a digit,
    which is zero behind a minus sign. -/
theorem readSigned_pair_ok_iff :
    readSigned 16 [a, b] = .ok (n : Int)
      ↔ (∃ high low, digitIn 16 a = some high ∧ digitIn 16 b = some low ∧ n = high * 16 + low)
        ∨ (a = '+' ∧ digitIn 16 b = some n) ∨ a = '-' ∧ digitIn 16 b = some 0 ∧ n = 0 := by
  have hminus : digitIn 16 '-' = none := rfl
  have hplus : digitIn 16 '+' = none := rfl
  unfold readSigned
  split
  · rename_i hcons
    cases hcons
    rw [signed_ok_iff]
    simp only [readUnsigned_single_ok_iff, hminus]
    constructor
    · rintro ⟨d, hd, hn⟩
      obtain ⟨rfl, rfl⟩ : d = 0 ∧ n = 0 := by omega
      exact .inr (.inr ⟨trivial, hd, rfl⟩)
    · rintro (⟨high, low, hhigh, -⟩ | ⟨heq, -⟩ | ⟨-, hd, rfl⟩)
      · cases hhigh
      · cases heq
      · exact ⟨0, hd, rfl⟩
  · rename_i hcons
    cases hcons
    rw [signed_ok_iff]
    simp [readUnsigned_single_ok_iff, hplus]
  · rename_i hnot hnot'
    have ha : a ≠ '-' := fun h => hnot [b] (h ▸ rfl)
    have ha' : a ≠ '+' := fun h => hnot' [b] (h ▸ rfl)
    rw [signed_ok_iff]
    simp [readUnsigned_pair_ok_iff, ha, ha']

end Whole

namespace Delimiter

/-- **The number that two characters come to** for the reader of integers, if it is not negative: two digits, or one
    digit with padding or a sign. -/
inductive Amounts : Char → Char → Nat → Prop where
  | digits {a b : Char} {high low : Nat} (first : Whole.digitIn 16 a = some high)
    (second : Whole.digitIn 16 b = some low) : Amounts a b (high * 16 + low)
  | before {a b : Char} {n : Nat} (padding : isPadding a = true) (digit : Whole.digitIn 16 b = some n) : Amounts a b n
  | behind {a b : Char} {n : Nat} (digit : Whole.digitIn 16 a = some n) (padding : isPadding b = true) : Amounts a b n
  | plus {b : Char} {n : Nat} (digit : Whole.digitIn 16 b = some n) : Amounts '+' b n
  | minus {b : Char} (zero : Whole.digitIn 16 b = some 0) : Amounts '-' b 0

/-- Padding is no digit. -/
theorem digitIn_of_isPadding {c : Char} (h : isPadding c = true) : Whole.digitIn 16 c = none := by
  obtain ⟨r, hr, hbounds⟩ := List.any_eq_true.mp (Bool.and_eq_true_iff.mp h).1
  simp only [Bool.and_eq_true, decide_eq_true_eq] at hbounds
  have hall : ∀ r ∈ blankRanges, ∀ k < r.2 + 1 - r.1, Whole.digitIn 16 (Char.ofNat (r.1 + k)) = none := by
    decide +kernel
  have hdigit := hall r hr (c.toNat - r.1) (by omega)
  rwa [Nat.add_sub_cancel' hbounds.1, Char.ofNat_toNat] at hdigit

theorem trimPadding_pair (a b : Char) :
    trimPadding [a, b]
      = if isPadding a then (if isPadding b then [] else [b]) else if isPadding b then [a] else [a, b] := by
  unfold trimPadding
  cases ha : isPadding a <;> cases hb : isPadding b <;> simp [ha, hb]

/-- **What two characters come to** is read. -/
theorem readIn_pair_ok_iff {a b : Char} {n : Nat} :
    Whole.readIn 16 (String.ofList [a, b]) = .ok (n : Int) ↔ Amounts a b n := by
  rw [Whole.readIn, String.toList_ofList, trimPadding_pair]
  constructor
  · intro h
    split_ifs at h with ha hb hb
    · cases h
    · exact .before ha (Whole.readSigned_single_ok_iff.mp h)
    · exact .behind (Whole.readSigned_single_ok_iff.mp h) hb
    · rcases Whole.readSigned_pair_ok_iff.mp h with ⟨high, low, hhigh, hlow, rfl⟩ | ⟨rfl, hd⟩ | ⟨rfl, hd, rfl⟩
      · exact .digits hhigh hlow
      · exact .plus hd
      · exact .minus hd
  · -- Next to padding there is no more padding, since a digit is none.
    have hbare {c : Char} {d : Nat} (hd : Whole.digitIn 16 c = some d) : ¬ isPadding c = true := fun hpadding => by
      rw [digitIn_of_isPadding hpadding] at hd
      cases hd
    intro h
    cases h with
    | digits hfirst hsecond =>
      rw [if_neg (hbare hfirst), if_neg (hbare hsecond)]
      exact Whole.readSigned_pair_ok_iff.mpr (.inl ⟨_, _, hfirst, hsecond, rfl⟩)
    | before ha hd =>
      rw [if_pos ha, if_neg (hbare hd)]
      exact Whole.readSigned_single_ok_iff.mpr hd
    | behind hd hb =>
      rw [if_neg (hbare hd), if_pos hb]
      exact Whole.readSigned_single_ok_iff.mpr hd
    | plus hd =>
      rw [if_neg (by decide), if_neg (hbare hd)]
      exact Whole.readSigned_pair_ok_iff.mpr (.inr (.inl ⟨rfl, hd⟩))
    | minus hd =>
      rw [if_neg (by decide), if_neg (hbare hd)]
      exact Whole.readSigned_pair_ok_iff.mpr (.inr (.inr ⟨rfl, hd, rfl⟩))

/-- Two characters never come to more than a byte. -/
theorem Amounts.lt {a b : Char} {n : Nat} (h : Amounts a b n) : n < 256 := by
  cases h with
  | digits hfirst hsecond =>
    have := Whole.digitIn_lt hfirst
    have := Whole.digitIn_lt hsecond
    omega
  | before _ hd | behind hd _ | plus hd =>
    have := Whole.digitIn_lt hd
    omega
  | minus _ => decide

theorem ofHex?_eq_some_iff {a b : Char} {v : UInt8} : ofHex? a b = some v ↔ ∃ n, Amounts a b n ∧ v = UInt8.ofNat n := by
  unfold ofHex?
  constructor
  · intro h
    split at h
    · rename_i n hread
      split at h
      · cases h
        exact ⟨n, readIn_pair_ok_iff.mp hread, rfl⟩
      · cases h
    · cases h
  · rintro ⟨n, hn, rfl⟩
    have hread : Whole.readIn 16 (String.ofList [a, b]) = .ok (.ofNat n) := readIn_pair_ok_iff.mpr hn
    rw [hread]
    exact if_pos hn.lt

/-! ## Beyond the grammar -/

instance (c : Char) (n : Nat) : Decidable (IsHex c n) := inferInstanceAs (Decidable (_ ∧ _))

theorem exists_isHex {c : Char} (h : isHexDigit c = true) : ∃ n, IsHex c n := by
  have hascii : c.toNat < 0x80 := by
    simp only [isHexDigit, isAsciiDigit, Bool.or_eq_true, Bool.and_eq_true, decide_eq_true_eq] at h
    obtain (⟨-, hle⟩ | ⟨-, hle⟩) | ⟨-, hle⟩ := h <;>
      exact Nat.lt_of_le_of_lt (UInt32.le_iff_toNat_le.mp hle) (by decide)
  have hall : ∀ k < 0x80, isHexDigit (Char.ofNat k) = true → ∃ n < 16, IsHex (Char.ofNat k) n := by
    decide +kernel
  have hspelled := hall c.toNat hascii
  rw [Char.ofNat_toNat] at hspelled
  obtain ⟨n, -, hn⟩ := hspelled h
  exact ⟨n, hn⟩

/-- The hexadecimal digits are those digits of the reader that are of the ASCII range. -/
theorem isHex_iff {c : Char} {n : Nat} : IsHex c n ↔ isHexDigit c = true ∧ Whole.digitIn 16 c = some n := by
  have hdigit {c : Char} {n : Nat} : IsHex c n → isHexDigit c = true ∧ Whole.digitIn 16 c = some n := by
    rintro ⟨hlt, hc⟩
    have hall : ∀ n < 16, (isHexDigit (hexDigit n) = true ∧ Whole.digitIn 16 (hexDigit n) = some n)
        ∧ isHexDigit (hexDigit n).toUpper = true ∧ Whole.digitIn 16 (hexDigit n).toUpper = some n := by
      decide +kernel
    rcases hc with rfl | rfl
    · exact (hall n hlt).1
    · exact (hall n hlt).2
  refine ⟨hdigit, ?_⟩
  rintro ⟨hc, hvalue⟩
  obtain ⟨m, hm⟩ := exists_isHex hc
  have hsame : m = n := Option.some.inj ((hdigit hm).2.symm.trans hvalue)
  exact hsame ▸ hm

/-- **A text outside the grammar that is read all the same**: the two characters behind `\x` come to a number, though
    they are not both hexadecimal digits. -/
inductive Lenient : List Char → UInt8 → Prop where
  | hex {x y : Char} {n : Nat} (amounts : Amounts x y n) (loose : ¬ (isHexDigit x = true ∧ isHexDigit y = true)) :
    Lenient [backslash, 'x', x, y] (UInt8.ofNat n)

theorem Denotes.not_lenient {cs : List Char} {b v : UInt8} (h : Denotes cs b) : ¬ Lenient cs v := by
  intro hlenient
  cases hlenient with
  | hex _ hloose =>
    cases h with
    | hex high low => exact hloose ⟨(isHex_iff.mp high).1, (isHex_iff.mp low).1⟩

/-- Two hexadecimal digits come to the number that they spell. -/
theorem amounts_hex_iff {x y : Char} {m k n : Nat} (high : IsHex x m) (low : IsHex y k) :
    Amounts x y n ↔ n = m * 16 + k := by
  have hx := isHex_iff.mp high
  have hy := isHex_iff.mp low
  constructor
  · intro h
    cases h with
    | digits hfirst hsecond =>
      cases hx.2.symm.trans hfirst
      cases hy.2.symm.trans hsecond
      rfl
    | before padding _ => cases hx.2.symm.trans (digitIn_of_isPadding padding)
    | behind _ padding => cases hy.2.symm.trans (digitIn_of_isPadding padding)
    | plus _ => cases hx.1
    | minus _ => cases hx.1
  · rintro rfl
    exact .digits hx.2 hy.2

/-- Behind `\x` a text is in the grammar, or beyond it, exactly if the two characters come to a number. -/
theorem denotes_or_lenient_hex_iff {x y : Char} {v : UInt8} :
    Denotes [backslash, 'x', x, y] v ∨ Lenient [backslash, 'x', x, y] v ↔ ∃ n, Amounts x y n ∧ v = UInt8.ofNat n := by
  constructor
  · rintro (h | h)
    · cases h with
      | hex high low => exact ⟨_, (amounts_hex_iff high low).mpr rfl, rfl⟩
    · cases h with
      | hex amounts _ => exact ⟨_, amounts, rfl⟩
  · rintro ⟨n, hn, rfl⟩
    by_cases hstrict : isHexDigit x = true ∧ isHexDigit y = true
    · obtain ⟨m, hm⟩ := exists_isHex hstrict.1
      obtain ⟨k, hk⟩ := exists_isHex hstrict.2
      rw [(amounts_hex_iff hm hk).mp hn]
      exact .inl (.hex hm hk)
    · exact .inr (.hex hn hstrict)

/-! ## The law -/

/-- What a text that is no delimiter is refused for. -/
def refusal (text : String) : Misconfiguration :=
  if text.toList.length = 1 then .wideDelimiter text else .unknownDelimiter text

/-- A text of more than one character, or of none, is in the grammar or beyond it only with a backslash in front. -/
theorem ofLong?_eq_some_iff {cs : List Char} (hlong : cs.length ≠ 1) {b : UInt8} :
    ofLong? cs = some b ↔ Denotes cs b ∨ Lenient cs b := by
  unfold ofLong?
  split
  · rename_i mark c
    split_ifs with hmark
    · subst hmark
      rw [ofEscape?_eq_some_iff]
      constructor
      · exact Or.inl
      · rintro (h | h)
        · exact h
        · cases h
    · constructor
      · intro h
        cases h
      · rintro (h | h) <;> cases h <;> exact absurd rfl hmark
  · rename_i mark x a b
    split_ifs with hmark
    · obtain ⟨rfl, rfl⟩ := hmark
      rw [ofHex?_eq_some_iff, denotes_or_lenient_hex_iff]
    · constructor
      · intro h
        cases h
      · rintro (h | h) <;> cases h <;> exact absurd ⟨rfl, rfl⟩ hmark
  · rename_i hpair hfour
    constructor
    · intro h
      cases h
    · rintro (h | h)
      · cases h with
        | plain _ => exact absurd rfl hlong
        | hex _ _ => exact absurd rfl (hfour _ _ _ _)
        | _ => exact absurd rfl (hpair _ _)
      · cases h with
        | hex _ _ => exact absurd rfl (hfour _ _ _ _)

theorem ofText_of_long {text : String} (hlong : text.toList.length ≠ 1) :
    ofText text
      = match ofLong? text.toList with
        | some b => .ok [b]
        | none => .error (.misconfigured (.unknownDelimiter text)) := by
  unfold ofText
  split
  · rename_i c hc
    exact absurd (congrArg List.length hc) hlong
  · rfl

theorem ofText_of_single {text : String} {c : Char} (h : text.toList = [c]) :
    ofText text
      = if c.toNat < 0x80 then .ok [UInt8.ofNat c.toNat] else .error (.misconfigured (.wideDelimiter text)) := by
  have hone : ofText text
      = if (Utf8.encode text).length = 1 then .ok (Utf8.encode text)
        else .error (.misconfigured (.wideDelimiter text)) := by
    unfold ofText
    rw [h]
  rw [hone]
  by_cases hascii : c.toNat < 0x80
  · rw [if_pos ((length_encode_single h).mpr hascii), if_pos hascii, encode_single h hascii]
  · rw [if_neg fun hlength => hascii ((length_encode_single h).mp hlength), if_neg hascii]

/-- A text that denotes a byte, in the grammar or beyond it, is read as that byte. -/
theorem ofText_of_read {text : String} {b : UInt8} (h : Denotes text.toList b ∨ Lenient text.toList b) :
    ofText text = .ok [b] := by
  by_cases hone : text.toList.length = 1
  · obtain ⟨c, hc⟩ := List.length_eq_one_iff.mp hone
    rw [hc] at h
    rcases h with h | h
    · cases h with
      | plain ascii => rw [ofText_of_single hc, if_pos ascii]
    · cases h
  · rw [ofText_of_long hone, (ofLong?_eq_some_iff hone).mpr h]

theorem ofText_of_unread {text : String} (h : ∀ b, ¬ Denotes text.toList b ∧ ¬ Lenient text.toList b) :
    ofText text = .error (.misconfigured (refusal text)) := by
  unfold refusal
  by_cases hone : text.toList.length = 1
  · obtain ⟨c, hc⟩ := List.length_eq_one_iff.mp hone
    have hwide : ¬ c.toNat < 0x80 := by
      intro hascii
      have hplain : Denotes text.toList (UInt8.ofNat c.toNat) := hc ▸ .plain hascii
      exact (h _).1 hplain
    rw [ofText_of_single hc, if_neg hwide, if_pos hone]
  · have hnone : ofLong? text.toList = none := by
      rw [Option.eq_none_iff_forall_ne_some]
      intro b hb
      exact ((ofLong?_eq_some_iff hone).mp hb).elim (h b).1 (h b).2
    rw [ofText_of_long hone, hnone, if_neg hone]

theorem ofText_ok_iff {text : String} {bytes : List UInt8} :
    ofText text = .ok bytes ↔ ∃ b, bytes = [b] ∧ (Denotes text.toList b ∨ Lenient text.toList b) := by
  constructor
  · intro h
    by_cases hread : ∃ b, Denotes text.toList b ∨ Lenient text.toList b
    · obtain ⟨b, hb⟩ := hread
      rw [ofText_of_read hb] at h
      exact ⟨b, (Except.ok.inj h).symm, hb⟩
    · rw [ofText_of_unread fun b => not_or.mp fun hb => hread ⟨b, hb⟩] at h
      cases h
  · rintro ⟨b, rfl, hb⟩
    exact ofText_of_read hb

theorem ofText_error_iff {text : String} {f : Failure} :
    ofText text = .error f
      ↔ (∀ b, ¬ Denotes text.toList b ∧ ¬ Lenient text.toList b) ∧ f = .misconfigured (refusal text) := by
  constructor
  · intro h
    have hunread : ∀ b, ¬ Denotes text.toList b ∧ ¬ Lenient text.toList b := fun b => not_or.mp fun hb => by
      rw [ofText_of_read hb] at h
      cases h
    rw [ofText_of_unread hunread] at h
    exact ⟨hunread, (Except.error.inj h).symm⟩
  · rintro ⟨hunread, rfl⟩
    exact ofText_of_unread hunread

/-- **Delimiters are those of the grammar and a few more.** A text is read as the byte that it denotes, in the grammar
    or beyond it; any other text is a wrong setting, which says whether it is a single character of more than one byte.
    So the reader keeps to the grammar for exactly those texts that are not beyond it. -/
theorem ofText_outcome (text : String) :
    (∀ bytes, ofText text = .ok bytes ↔ ∃ b, bytes = [b] ∧ (Denotes text.toList b ∨ Lenient text.toList b))
      ∧ (∀ f, ofText text = .error f
        ↔ (∀ b, ¬ Denotes text.toList b ∧ ¬ Lenient text.toList b) ∧ f = .misconfigured (refusal text))
      ∧ ((∀ bytes, ofText text = .ok bytes ↔ ∃ b, bytes = [b] ∧ Denotes text.toList b)
        ↔ ∀ b, ¬ Lenient text.toList b) := by
  refine ⟨fun bytes => ofText_ok_iff, fun f => ofText_error_iff, ?_⟩
  constructor
  · intro hgrammar b hlenient
    obtain ⟨v, -, hv⟩ := (hgrammar [b]).mp (ofText_of_read (.inr hlenient))
    exact hv.not_lenient hlenient
  · intro hstrict bytes
    rw [ofText_ok_iff]
    simp only [hstrict, or_false]

/-- **A sign is no hexadecimal digit, and is read as if it were one**: the text is a byte, though none that it
    denotes. -/
theorem ofText_reads_sign :
    ofText "\\x+1" = .ok [0x01] ∧ ∀ b, ¬ Denotes "\\x+1".toList b := by
  have hlenient : Lenient "\\x+1".toList (UInt8.ofNat 1) := .hex (.plus (by decide)) (by decide)
  exact ⟨ofText_of_read (.inr hlenient), fun b h => h.not_lenient hlenient⟩

end Delimiter

end TopicReader
