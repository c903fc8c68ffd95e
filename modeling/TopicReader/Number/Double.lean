/-!
# `Number.Double` — binary64 numbers as exact values

A binary64 number is held as what it denotes, sign · mantissa · 2^exponent, so that rounding, comparison
and arithmetic are plain integer computations that evaluate in the kernel.

## Contents
- **The type.** `Double` and its constants. Values that are no numbers are told apart by a mark.
- **Rounding.** `roundRatio`: the nearest binary64 number of a ratio, ties to even.
- **Arithmetic.** `neg`, `add`, `sub`, `mul`, `div`, each the rounded exact result.
- **Comparison.** `lt`, `eq`, under which the two zeros are equal and `nan` equals nothing; `ltInt` and `gtInt`
  compare with an integer, which is not rounded for that.
- **Integers.** `ofInt` (rounded, possibly infinite) and `toInt?` (truncated toward zero).
-/

namespace TopicReader

/-- A binary64 number. A finite one is `mantissa · 2^exponent`, where the mantissa is below `2^53` and,
    unless the exponent is the least one, at least `2^52`. The mark of one that is no number tells objects
    apart: arithmetic and comparison do not look at it, but a collection takes one object to be itself. -/
inductive Double where
  | nan (mark : Nat)
  | infinite (negative : Bool)
  | finite (negative : Bool) (mantissa : Nat) (exponent : Int)
deriving DecidableEq, Repr, Inhabited

namespace Double

/-- The least exponent, that of the subnormal numbers. -/
def leastExponent : Int := -1074

/-- The greatest exponent of a finite number. -/
def greatestExponent : Int := 971

/-- The least mantissa of 53 bits; the mantissas of a normal number start here. -/
def leastNormal : Nat := Nat.pow 2 52

/-- Zero, of either sign. -/
def zero (negative : Bool) : Double := .finite negative 0 leastExponent

/-! ## Rounding -/

/-- The integer nearest to `num / den`, ties to even. -/
def roundHalfEven (num den : Nat) : Nat :=
  let q := num / den
  let twice := 2 * (num % den)
  if twice < den then q
  else if den < twice then q + 1
  else if q % 2 = 0 then q else q + 1

/-- The ratio `num / den / 2^e` as a numerator and a denominator. -/
def scaleDown (num den : Nat) (e : Int) : Nat × Nat :=
  if 0 ≤ e then (num, den * Nat.pow 2 e.toNat) else (num * Nat.pow 2 (-e).toNat, den)

/-- The exponent at which `num / den` has a mantissa of 53 bits, or the least exponent. -/
def exponentOf (num den : Nat) : Int :=
  let estimate : Int := max ((num.log2 : Int) - den.log2 - 52) leastExponent
  let scaled := scaleDown num den estimate
  if scaled.1 / scaled.2 < leastNormal then max (estimate - 1) leastExponent else estimate

/-- The binary64 number nearest to `± num / den`, ties to even; beyond the range it is infinite. -/
def roundRatio (negative : Bool) (num den : Nat) : Double :=
  if num = 0 then zero negative
  else
    let e := exponentOf num den
    let scaled := scaleDown num den e
    let m := roundHalfEven scaled.1 scaled.2
    let carried := m = 2 * leastNormal
    let mantissa := if carried then leastNormal else m
    let exponent := if carried then e + 1 else e
    if greatestExponent < exponent then .infinite negative else .finite negative mantissa exponent

/-- The ratio `mantissa · 2^exponent` as a numerator and a denominator. -/
def ratioOf (mantissa : Nat) (exponent : Int) : Nat × Nat :=
  if 0 ≤ exponent then (mantissa * Nat.pow 2 exponent.toNat, 1)
  else (mantissa, Nat.pow 2 (-exponent).toNat)

/-- Is it one of the two zeros? -/
def isZero : Double → Bool
  | .finite _ 0 _ => true
  | _ => false

/-- Is it neither infinite nor `nan`? -/
def isFinite : Double → Bool
  | .finite .. => true
  | _ => false

/-- What is no number, where no object is told from another. -/
def noNumber : Double := .nan 0

/-- The number, or what is no number as the object with a mark. -/
def marked (mark : Nat) : Double → Double
  | .nan _ => .nan mark
  | x => x

/-! ## Arithmetic -/

/-- The number with the opposite sign. -/
def neg : Double → Double
  | .nan mark => .nan mark
  | .infinite n => .infinite (!n)
  | .finite n m e => .finite (!n) m e

/-- The signed numerator of a magnitude. -/
def signed (negative : Bool) (num : Nat) : Int := if negative then -(num : Int) else num

/-- The rounded sum. A sum of exactly zero is positive unless both terms are negative. -/
def add : Double → Double → Double
  | .nan _, _ => noNumber
  | _, .nan _ => noNumber
  | .infinite a, .infinite b => if a = b then .infinite a else noNumber
  | .infinite a, _ => .infinite a
  | _, .infinite b => .infinite b
  | .finite a m e, .finite b n f =>
    let x := ratioOf m e
    let y := ratioOf n f
    let num := signed a x.1 * y.2 + signed b y.1 * x.2
    if num = 0 then zero (a && b) else roundRatio (num < 0) num.natAbs (x.2 * y.2)

/-- The rounded difference. -/
def sub (x y : Double) : Double := add x (neg y)

/-- The rounded product. -/
def mul : Double → Double → Double
  | .nan _, _ => noNumber
  | _, .nan _ => noNumber
  | .infinite a, .infinite b => .infinite (a != b)
  | .infinite a, .finite b n _ => if n = 0 then noNumber else .infinite (a != b)
  | .finite a m _, .infinite b => if m = 0 then noNumber else .infinite (a != b)
  | .finite a m e, .finite b n f =>
    let x := ratioOf m e
    let y := ratioOf n f
    roundRatio (a != b) (x.1 * y.1) (x.2 * y.2)

/-- The rounded quotient. Division by a zero is infinite, that of zero by zero `nan`. -/
def div : Double → Double → Double
  | .nan _, _ => noNumber
  | _, .nan _ => noNumber
  | .infinite _, .infinite _ => noNumber
  | .infinite a, .finite b _ _ => .infinite (a != b)
  | .finite a _ _, .infinite b => zero (a != b)
  | .finite a m e, .finite b n f =>
    if n = 0 then (if m = 0 then noNumber else .infinite (a != b))
    else
      let x := ratioOf m e
      let y := ratioOf n f
      roundRatio (a != b) (x.1 * y.2) (x.2 * y.1)

/-! ## Comparison -/

/-- The finite numbers as signed ratios. -/
def signedRatio (negative : Bool) (mantissa : Nat) (exponent : Int) : Int × Nat :=
  let r := ratioOf mantissa exponent
  (signed negative r.1, r.2)

/-- Is the first strictly below the second? Nothing is below or above `nan`. -/
def lt : Double → Double → Bool
  | .nan _, _ => false
  | _, .nan _ => false
  | .infinite a, .infinite b => a && !b
  | .infinite a, _ => a
  | _, .infinite b => !b
  | .finite a m e, .finite b n f =>
    let x := signedRatio a m e
    let y := signedRatio b n f
    x.1 * y.2 < y.1 * x.2

/-- Are the two equal as numbers? -/
def eq : Double → Double → Bool
  | .nan _, _ => false
  | _, .nan _ => false
  | .infinite a, .infinite b => a == b
  | .finite a m e, .finite b n f =>
    let x := signedRatio a m e
    let y := signedRatio b n f
    x.1 * y.2 == y.1 * x.2
  | _, _ => false

/-- Is the number strictly below an integer? -/
def ltInt (x : Double) (n : Int) : Bool :=
  match x with
  | .nan _ => false
  | .infinite negative => negative
  | .finite negative m e =>
    let r := signedRatio negative m e
    r.1 < n * r.2

/-- Is the number strictly above an integer? -/
def gtInt (x : Double) (n : Int) : Bool :=
  match x with
  | .nan _ => false
  | .infinite negative => !negative
  | .finite negative m e =>
    let r := signedRatio negative m e
    n * r.2 < r.1

/-! ## Integers -/

/-- The binary64 number nearest to an integer; infinite beyond the range. -/
def ofInt (n : Int) : Double := roundRatio (n < 0) n.natAbs 1

/-- The integer part, toward zero, of a finite number. -/
def toInt? : Double → Option Int
  | .finite n m e =>
    let r := ratioOf m e
    some (signed n (r.1 / r.2))
  | _ => none

/-- The finite number as an exact integer, when it is one. -/
def exactInt? : Double → Option Int
  | .finite n m e =>
    let r := ratioOf m e
    if r.1 % r.2 = 0 then some (signed n (r.1 / r.2)) else none
  | _ => none

/-- The quotient of two integers, rounded once; infinite beyond the range. -/
def ofQuotient (num : Int) (den : Nat) : Double := roundRatio (num < 0) num.natAbs den

end Double

end TopicReader
