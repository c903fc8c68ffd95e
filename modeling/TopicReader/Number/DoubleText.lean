import TopicReader.Number.Shortest
import TopicReader.Text.Blank
import TopicReader.Text.Digit

/-!
# `Number.DoubleText` — binary64 numbers as text

## Contents
- **Plain text.** `Double.text`: the shortest digits, positional from `1e-4` up to below `1e16`.
- **One place.** `Double.fixedOne`: exactly one decimal place, a tie going to the even neighbour.
- **Six digits.** `Double.sixDigits`: at most six significant digits, without trailing zeros.
- **Reading.** `Double.read?`: decimal text, blanks around it and single underscores between digits
  allowed, digits of any script, `inf`, `infinity` and `nan` in any case.
-/

namespace TopicReader.Double

open TopicReader.Text

/-- The decimal digits of a number. -/
def digitsOf (n : Nat) : List Char := n.repr.toList

/-- The sign in front of a negative number. -/
def signOf (negative : Bool) : List Char := if negative then ['-'] else []

/-- A decimal exponent with its sign and at least two digits. -/
def exponentText (e : Int) : List Char :=
  'e' :: (if e < 0 then '-' else '+') :: decimalPadded 2 e.natAbs

/-- Digits with a point after `point` of them, zeros filled in on either side as needed. -/
def positional (ds : List Char) (point : Int) : List Char × List Char :=
  if point ≤ 0 then (['0'], List.replicate (-point).toNat '0' ++ ds)
  else
    let n := point.toNat
    (ds.take n ++ List.replicate (n - ds.length) '0', ds.drop n)

/-- The text of a positive decimal: positional when the point falls within 16 places to the right and
    3 to the left of the first digit, and always with a fraction then. -/
def layoutPlain (d : Decimal) : List Char :=
  let ds := digitsOf d.digits
  let point : Int := ds.length + d.power
  if -4 < point ∧ point ≤ 16 then
    let parts := positional ds point
    parts.1 ++ '.' :: (if parts.2.isEmpty then ['0'] else parts.2)
  else
    ds.take 1 ++ (if ds.length = 1 then [] else '.' :: ds.drop 1) ++ exponentText (point - 1)

/-- The plain text of a number. -/
def text : Double → String
  | .nan _ => "nan"
  | .infinite n => if n then "-inf" else "inf"
  | .finite n 0 _ => String.ofList (signOf n ++ "0.0".toList)
  | .finite n m e => String.ofList (signOf n ++ layoutPlain (shortest m e))

/-! ## One place -/

/-- The text with exactly one decimal place. -/
def fixedOne : Double → String
  | .nan _ => "nan"
  | .infinite n => if n then "-inf" else "inf"
  | .finite n m e =>
    let r := ratioOf m e
    let tenths := roundHalfEven (r.1 * 10) r.2
    String.ofList (signOf n ++ digitsOf (tenths / 10) ++ '.' :: digitsOf (tenths % 10))

/-! ## Six digits -/

/-- The value rounded to six significant digits. -/
def roundToSix (num den : Nat) : Decimal :=
  let power := decimalExponent num den - 6
  let t := tenPower power
  ⟨roundHalfEven (num * t.2) (den * t.1), power⟩

/-- The text of a positive decimal with few digits: positional from `1e-4` up to below `1e6`. -/
def layoutShort (d : Decimal) : List Char :=
  let point : Int := (digitsOf d.digits).length + d.power
  let ds := digitsOf (d.normalize 20).digits
  if -4 < point ∧ point ≤ 6 then
    let parts := positional ds point
    parts.1 ++ (if parts.2.isEmpty then [] else '.' :: parts.2)
  else
    ds.take 1 ++ (if ds.length = 1 then [] else '.' :: ds.drop 1) ++ exponentText (point - 1)

/-- The text with at most six significant digits. -/
def sixDigits : Double → String
  | .nan _ => "nan"
  | .infinite n => if n then "-inf" else "inf"
  | .finite n 0 _ => String.ofList (signOf n ++ ['0'])
  | .finite n m e =>
    let r := ratioOf m e
    String.ofList (signOf n ++ layoutShort (roundToSix r.1 r.2))

/-! ## Reading -/

/-- The value `digits · 10^power`, rounded; far beyond the range no big number is built. -/
def ofDecimal (negative : Bool) (digits : Nat) (power : Int) : Double :=
  if digits = 0 then zero negative
  else
    let top : Int := (digitsOf digits).length + power
    if 400 < top then .infinite negative
    else if top < -400 then zero negative
    else
      let t := tenPower power
      roundRatio negative (digits * t.1) t.2

/-- Digits of any script with single underscores between them, folded into a number and counted. -/
def readDigits : List Char → Nat → Nat → Option (Nat × Nat × List Char)
  | [], value, count => some (value, count, [])
  | c :: rest, value, count =>
    match digitValue c with
    | some d => readDigits rest (value * 10 + d) (count + 1)
    | none =>
      if c = '_' then
        match rest with
        | next :: _ =>
          if 0 < count ∧ (digitValue next).isSome then readDigits rest value count else none
        | [] => none
      else some (value, count, c :: rest)

/-- A sign in front, if any. -/
def takeSign : List Char → Bool × List Char
  | '-' :: rest => (true, rest)
  | '+' :: rest => (false, rest)
  | cs => (false, cs)

/-- An exponent at the end of a number, if any. -/
def readExponent : List Char → Option Int
  | [] => some 0
  | c :: rest =>
    if c = 'e' ∨ c = 'E' then
      let (negative, digits) := takeSign rest
      match readDigits digits 0 0 with
      | some (value, count, []) =>
        if count = 0 then none else some (if negative then -(value : Int) else value)
      | _ => none
    else none

/-- The digits after the point: their count, and the number they extend to. -/
def readFraction (whole : Nat) (cs : List Char) : Option (Nat × Nat × List Char) :=
  match cs with
  | c :: _ => if c = '_' then none else readDigits cs whole 0
  | [] => some (whole, 0, [])

/-- Read an unsigned decimal number. -/
def readUnsigned (negative : Bool) (cs : List Char) : Option Double := do
  let (whole, wholeCount, rest) ← readDigits cs 0 0
  match rest with
  | '.' :: after =>
    let (value, places, rest) ← readFraction whole after
    if wholeCount = 0 ∧ places = 0 then none
    let e ← readExponent rest
    some (ofDecimal negative value (e - places))
  | _ =>
    if wholeCount = 0 then none
    let e ← readExponent rest
    some (ofDecimal negative whole e)

/-- The words for numbers that are not finite, in lower case. -/
def readWord (negative : Bool) (cs : List Char) : Option Double :=
  let word := String.ofList (cs.map Char.toLower)
  if word = "inf" ∨ word = "infinity" then some (.infinite negative)
  else if word = "nan" then some .noNumber
  else none

/-- Read a number from text. -/
def read? (s : String) : Option Double :=
  let (negative, cs) := takeSign (trimPadding s.toList)
  (readWord negative cs).orElse fun _ => readUnsigned negative cs

end TopicReader.Double
