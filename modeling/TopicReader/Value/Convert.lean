import TopicReader.Failure.Basic
import TopicReader.Path
import TopicReader.Value.Text

/-!
# `Value.Convert` — values as numbers, and values in order

## Contents
- **Integers.** `Value.toInt`: the integer that a number or a text stands for.
- **Floats.** `Value.toDouble`: likewise, as a binary64 number.
- **Quotients.** `quotient`: the quotient of two integers as a binary64 number.
- **Checked text.** `Value.showChecked`: the text of a value, unless an integer in it is too long, and
  `Failure.refusing` for the wording of a refusal.
- **Order.** `Value.less`, for values of one kind only, `sortOn` and `sortValues`.

What comes of sorting is laid down for values that have a total order. Sets are ordered in part only, and what is no
number not at all; in what order the items of such a row are compared is a choice of this module.
-/

namespace TopicReader

open TopicReader.Text

namespace Value

/-! ## Integers -/

/-- The start of a text, as far as messages about it go. -/
def clipQuoted (q : String) : String := String.ofList (q.toList.take 200)

/-- Why a text, shown quoted, is not an integer in the given base. -/
def notInteger (base : Nat) (quoted : String) : Whole.Refusal → Failure
  | .malformed =>
    .mishap .wrongValue ("invalid literal for int() with base " ++ base.repr ++ ": " ++
      clipQuoted quoted)
  | .tooLong n =>
    .mishap .wrongValue ("Exceeds the limit (" ++ Whole.digitLimit.repr ++
      " digits) for integer string conversion: value has " ++ n.repr ++
      " digits; use sys.set_int_max_str_digits() to increase the limit")

/-- Bytes read as a text of one-byte characters; anything beyond ASCII is no digit and no blank. -/
def asciiOf (bs : List UInt8) : String :=
  String.ofList (bs.map fun b => if b.toNat < 0x80 then Char.ofNat b.toNat else '?')

/-- The integer that a value stands for; a float loses its fraction. -/
def toInt (v : Value) : Except Failure Int :=
  match v with
  | .bool b => .ok (if b then 1 else 0)
  | .int n => .ok n
  | .float x =>
    match x with
    | .nan _ => .error (.mishap .wrongValue "cannot convert float NaN to integer")
    | .infinite _ => .error (.mishap .outOfRange "cannot convert float infinity to integer")
    | x => .ok (x.toInt?.getD 0)
  | .text s => (Whole.read s).mapError (notInteger 10 v.quoted)
  | .bytes _ bs => (Whole.read (asciiOf bs)).mapError (notInteger 10 v.quoted)
  | v =>
    .error (.mishap .wrongKind
      ("int() argument must be a string, a bytes-like object or a real number, not '" ++
        v.kindWord ++ "'"))

/-! ## Floats -/

/-- The binary64 number that a value stands for. -/
def toDouble (v : Value) : Except Failure Double :=
  match v with
  | .bool b => .ok (Double.ofInt (if b then 1 else 0))
  | .int n =>
    match Double.ofInt n with
    | .infinite _ => .error (.mishap .outOfRange "int too large to convert to float")
    | x => .ok x
  | .float x => .ok x
  | .text s =>
    match Double.read? s with
    | some x => .ok x
    | none => .error (.mishap .wrongValue ("could not convert string to float: " ++ v.quoted))
  | .bytes _ bs =>
    match Double.read? (asciiOf bs) with
    | some x => .ok x
    | none => .error (.mishap .wrongValue ("could not convert string to float: " ++ v.quoted))
  | v =>
    .error (.mishap .wrongKind
      ("float() argument must be a string or a real number, not '" ++ v.kindWord ++ "'"))

/-! ## Quotients -/

/-- The quotient of two integers, if it is in range. -/
def quotient (num : Int) (den : Nat) : Except Failure Double :=
  match Double.ofQuotient num den with
  | .infinite _ => .error (.mishap .outOfRange "integer division result too large for a float")
  | x => .ok x

/-! ## Checked text -/

/-- The integers from here on are too long to be written out. -/
def longBound : Nat := Nat.pow 10 Whole.digitLimit

/-- An integer that is too long to be written out. -/
def tooLong : Failure :=
  .mishap .wrongValue ("Exceeds the limit (" ++ Whole.digitLimit.repr ++
    " digits) for integer string conversion; use sys.set_int_max_str_digits() to increase the limit")

mutual

/-- Is there an integer in the value that is too long to be written out? -/
def holdsLong (v : Value) : Bool :=
  match v with
  | .int n => longBound ≤ n.natAbs
  | .offset o => o.number?.any fun n => longBound ≤ n
  | .list xs => holdsLongAll xs
  | .tuple xs => holdsLongAll xs
  | .set _ xs => holdsLongAll xs
  | .map es => holdsLongPairs es
  | _ => false

/-- Is there one in a sequence? -/
def holdsLongAll (xs : List Value) : Bool :=
  match xs with
  | [] => false
  | x :: rest => holdsLong x || holdsLongAll rest

/-- Is there one in a mapping? -/
def holdsLongPairs (es : List (Value × Value)) : Bool :=
  match es with
  | [] => false
  | (k, v) :: rest => holdsLong k || holdsLong v || holdsLongPairs rest

end

/-- The text of a value, if all its integers can be written out. -/
def showChecked (v : Value) : Except Failure String :=
  if v.holdsLong then .error tooLong else .ok v.shown

end Value

/-- Settings are refused for a cause, unless its wording shows an integer that is too long to be written out:
    then that is the failure. -/
def Failure.refusing (m : Misconfiguration) : Failure :=
  if Value.holdsLongAll m.shown then Value.tooLong else .misconfigured m

namespace Value

/-! ## Order -/

/-- Two values of kinds that have no common order. -/
def unordered (a b : Value) : Failure :=
  .mishap .wrongKind ("'<' not supported between instances of '" ++ a.kindWord ++ "' and '" ++
    b.kindWord ++ "'")

/-- Is the first number below the second? -/
def lessNumber : Int ⊕ Double → Int ⊕ Double → Bool
  | .inl a, .inl b => a < b
  | .inl a, .inr y => y.gtInt a
  | .inr x, .inl b => x.ltInt b
  | .inr x, .inr y => Double.lt x y

/-- Lexicographic order of texts by code point. -/
def lessChars : List Char → List Char → Bool
  | [], [] => false
  | [], _ :: _ => true
  | _ :: _, [] => false
  | a :: as, b :: bs => if a = b then lessChars as bs else a < b

/-- Lexicographic order of byte strings. -/
def lessBytes : List UInt8 → List UInt8 → Bool
  | [], [] => false
  | [], _ :: _ => true
  | _ :: _, [] => false
  | a :: as, b :: bs => if a = b then lessBytes as bs else a < b

/-- Lexicographic order of paths by their parts. -/
def lessParts : List (List Char) → List (List Char) → Bool
  | [], [] => false
  | [], _ :: _ => true
  | _ :: _, [] => false
  | a :: as, b :: bs => if a = b then lessParts as bs else lessChars a b

mutual

/-- Is the first value below the second? Only values of one kind have an order,
    and a set is below the sets that hold more than it. -/
def less (a b : Value) : Except Failure Bool :=
  match a, b with
  | .text s, .text t => .ok (lessChars s.toList t.toList)
  | .bytes _ x, .bytes _ y => .ok (lessBytes x y)
  | .list xs, .list ys => lessAll xs ys
  | .tuple xs, .tuple ys => lessAll xs ys
  | .date x, .date y => .ok (x.ordinal < y.ordinal)
  | .time x, .time y =>
    if x.zone.isSome = y.zone.isSome then .ok (x.instant < y.instant)
    else .error (unordered (.time x) (.time y))
  | .path p, .path q => .ok (lessParts (Path.parts p.toList) (Path.parts q.toList))
  | .set _ xs, .set _ ys => .ok (xs.length < ys.length && holdsAll ys xs)
  | a, b =>
    match a.number?, b.number? with
    | some x, some y => .ok (lessNumber x y)
    | _, _ => .error (unordered a b)

/-- Lexicographic order of sequences. -/
def lessAll (xs ys : List Value) : Except Failure Bool :=
  match xs, ys with
  | [], [] => .ok false
  | [], _ :: _ => .ok true
  | _ :: _, [] => .ok false
  | x :: xs, y :: ys => if x.same y then lessAll xs ys else less x y

end

end Value

/-- Insert into a list ordered by `key`, after the items that are not above. -/
def insertOn {α : Type} (key : α → Value) (x : α) : List α → Except Failure (List α)
  | [] => .ok [x]
  | y :: rest => do
    if ← Value.less (key x) (key y) then return x :: y :: rest
    else return y :: (← insertOn key x rest)

/-- The items in ascending order of their keys; items with equal keys keep their order. -/
def sortOn {α : Type} (key : α → Value) (xs : List α) : Except Failure (List α) :=
  xs.foldlM (fun acc x => insertOn key x acc) []

/-- The values in ascending order. -/
def sortValues (vs : List Value) : Except Failure (List Value) := sortOn id vs

end TopicReader
