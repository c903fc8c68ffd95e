import TopicReader.Number.Double

/-!
# `Number.Shortest` — the fewest digits that read back

## Contents
- **The interval.** `Interval`: the reals that round to a binary64 number, scaled to integers.
- **The search.** `digitsAt`: the better of the two neighbours of the value on the grid of `n` digits, if
  it lies in the interval; `shortest`: the first grid, from 1 to 17 digits, that has one.
-/

namespace TopicReader.Double

/-- A decimal number `digits · 10^power`. -/
structure Decimal where
  digits : Nat
  power : Int
deriving DecidableEq, Repr, Inhabited

/-- The value, and the ends of the interval of reals that round to it, over a common denominator. -/
structure Interval where
  low : Nat
  value : Nat
  high : Nat
  den : Nat
  closed : Bool
deriving DecidableEq, Repr

/-- The interval of a positive finite number: half a step up, and half a step down, where the step
    below a power of two is half as wide. The ends belong to it iff the mantissa is even. -/
def interval (m : Nat) (e : Int) : Interval :=
  let r := ratioOf 1 (e - 2)
  let below := if m = leastNormal ∧ leastExponent < e then 1 else 2
  { low := (4 * m - below) * r.1, value := 4 * m * r.1, high := (4 * m + 2) * r.1
    den := r.2, closed := m % 2 = 0 }

/-- Does the real `num / den` lie in the interval? -/
def Interval.holds (i : Interval) (num den : Nat) : Bool :=
  let x := num * i.den
  if i.closed then i.low * den ≤ x && x ≤ i.high * den
  else i.low * den < x && x < i.high * den

/-- `10^k` for an integer `k`, as a numerator and a denominator. -/
def tenPower (k : Int) : Nat × Nat :=
  if 0 ≤ k then (Nat.pow 10 k.toNat, 1) else (1, Nat.pow 10 (-k).toNat)

/-- Is `num / den` at least `10^k`? -/
def reaches (num den : Nat) (k : Int) : Bool :=
  let t := tenPower k
  t.1 * den ≤ num * t.2

/-- Correct an estimate of the decimal exponent upward, by at most `fuel` steps. -/
def raise (num den : Nat) : Nat → Int → Int
  | 0, k => k
  | fuel + 1, k => if reaches num den k then raise num den fuel (k + 1) else k

/-- The exponent `k` with `10^(k-1) ≤ num / den < 10^k`, for a positive ratio. -/
def decimalExponent (num den : Nat) : Int :=
  let bits : Int := (num.log2 : Int) - den.log2
  raise num den 8 ((bits - 1) * 30103 / 100000 - 1)

/-- The neighbours of the value on the grid of multiples of `10^power`, best first. -/
def neighbours (i : Interval) (power : Int) : List Nat :=
  let t := tenPower power
  let num := i.value * t.2
  let den := i.den * t.1
  let down := num / den
  let twice := 2 * (num % den)
  if twice < den ∨ (twice = den ∧ down % 2 = 0) then [down, down + 1] else [down + 1, down]

/-- The better neighbour on the grid of multiples of `10^power` that lies in the interval. -/
def digitsAt (i : Interval) (power : Int) : Option Decimal :=
  let t := tenPower power
  ((neighbours i power).find? fun d => i.holds (d * t.1) t.2).map fun d => ⟨d, power⟩

/-- The first hit over the grids of `count`, `count + 1`, … digits, `fuel` grids at most. -/
def searchDigits (i : Interval) (exponent : Int) : Nat → Nat → Option Decimal
  | 0, _ => none
  | fuel + 1, count =>
    match digitsAt i (exponent - count) with
    | some d => some d
    | none => searchDigits i exponent fuel (count + 1)

/-- Drop trailing zeros of the digits, by at most `fuel` steps. -/
def Decimal.normalize : Nat → Decimal → Decimal
  | 0, d => d
  | fuel + 1, d =>
    if d.digits ≠ 0 ∧ d.digits % 10 = 0 then normalize fuel ⟨d.digits / 10, d.power + 1⟩ else d

/-- The shortest decimal that rounds to the positive finite number `m · 2^e`, nearest of those. -/
def shortest (m : Nat) (e : Int) : Decimal :=
  let i := interval m e
  let r := ratioOf m e
  ((searchDigits i (decimalExponent r.1 r.2) 17 1).getD ⟨r.1, 0⟩).normalize 20

end TopicReader.Double
