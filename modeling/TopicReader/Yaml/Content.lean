import TopicReader.Number.DoubleText
import TopicReader.Text.Base64
import TopicReader.Text.Case
import TopicReader.Value.Convert
import TopicReader.Yaml.Source
import TopicReader.Yaml.Tag

/-!
# `Yaml.Content` — the value that the text of a scalar stands for

## Contents
- **Truth.** `boolValue`: a few words, letter case aside.
- **Integers.** `intValue`: signs, bases, underscores and groups of sixty.
- **Floats.** `floatValue`: likewise; `isNotANumber` says which texts all stand for one and the same value.
- **Others.** `binaryValue` and `stampValue`.
- **All.** `scalarValue` chooses by the kind.
-/

namespace TopicReader.Yaml

open TopicReader.Text

/-! ## Truth -/

/-- The words for truth values, letter case aside. -/
def truthOf (word : String) : Option Bool :=
  if ["yes", "true", "on"].contains word then some true
  else if ["no", "false", "off"].contains word then some false
  else none

/-- The value of a truth value's text. -/
def boolValue (s : String) : Except Failure Value :=
  match truthOf (lower s) with
  | some b => .ok (.bool b)
  | none => .error (.mishap .missingKey (quoteText (lower s)))

/-! ## Integers -/

/-- Read an integer in a base. -/
def wholeIn (base : Nat) (cs : List Char) : Except Failure Int :=
  let s := String.ofList cs
  (Whole.readIn base s).mapError (Value.notInteger base (quoteText s))

/-- Does a sign in front say that a number is negative? -/
def hasMinus (cs : List Char) : Bool := cs.head? == some '-'

/-- A text without its underscores. -/
def ungrouped (s : String) : List Char := s.toList.filter (· != '_')

/-- Nothing where a character is needed. -/
def emptyNumber : Failure := .mishap .emptyText "string index out of range"

/-- The value of an unsigned integer's text: binary, hexadecimal, octal, by sixties or decimal. -/
def wholeValue (cs : List Char) : Except Failure Int :=
  match cs with
  | [] => .error emptyNumber
  | ['0'] => .ok 0
  | '0' :: 'b' :: rest => wholeIn 2 rest
  | '0' :: 'x' :: rest => wholeIn 16 rest
  | '0' :: _ => wholeIn 8 cs
  | _ =>
    if cs.contains ':' then
      (splitWhere (· == ':') cs).foldlM (fun acc part => do return acc * 60 + (← wholeIn 10 part)) 0
    else wholeIn 10 cs

/-- The value of an integer's text. -/
def intValue (s : String) : Except Failure Value :=
  let cs := ungrouped s
  if cs.isEmpty then .error emptyNumber
  else (wholeValue (Tag.dropSign cs)).map fun n => .int (if hasMinus cs then -n else n)

/-! ## Floats -/

/-- Read a binary64 number. -/
def doubleIn (cs : List Char) : Except Failure Double :=
  Value.toDouble (.text (String.ofList cs))

/-- The number that groups of sixty make up, the last group first. -/
def sixties : Int → Double → List Double → Except Failure Double
  | _, acc, [] => .ok acc
  | weight, acc, d :: rest =>
    match Double.ofInt weight with
    | .infinite _ => .error (.mishap .outOfRange "int too large to convert to float")
    | w => sixties (weight * 60) (acc.add (d.mul w)) rest

/-- The value of an unsigned float's text. -/
def unsignedDouble (cs : List Char) : Except Failure Double :=
  if cs = ".inf".toList then .ok (.infinite false)
  else if cs = ".nan".toList then .ok .noNumber
  else if cs.contains ':' then do
    let parts ← (splitWhere (· == ':') cs).mapM doubleIn
    sixties 1 (Double.zero false) parts.reverse
  else doubleIn cs

/-- A float's text in lower case and without its underscores. -/
def foldedDouble (s : String) : List Char := (lower (String.ofList (ungrouped s))).toList

/-- Does a float's text use the word for a value that is no number? -/
def isNotANumber (s : String) : Bool := Tag.dropSign (foldedDouble s) == ".nan".toList

/-- The value of a float's text. -/
def floatValue (s : String) : Except Failure Value :=
  let cs := foldedDouble s
  if cs.isEmpty then .error emptyNumber
  else (unsignedDouble (Tag.dropSign cs)).map fun x => .float (if hasMinus cs then x.neg else x)

/-! ## Others -/

/-- The value of a text in base 64. -/
def binaryValue (s : String) : Except Failure Value :=
  if s.toList.any fun c => 0x80 ≤ c.toNat then .error (malformed .building)
  else
    match Base64.decode? s.toList with
    | some bytes => .ok (.bytes false bytes)
    | none => .error (malformed .building)

/-- The value of a stamp's text; a line feed at its end does not count. -/
def stampValue (s : String) : Except Failure Value :=
  let cs := s.toList
  match Stamp.read? (if cs.getLast? = some '\n' then cs.dropLast else cs) with
  | some stamp => stamp.value
  | none => .error (.mishap .noSuchMember "not a date or time")

/-! ## All -/

/-- The value of a scalar's text, for the kinds that have one. -/
def scalarValue (t : Tag) (s : String) : Except Failure Value :=
  match t with
  | .null => .ok .null
  | .bool => boolValue s
  | .int => intValue s
  | .float => floatValue s
  | .binary => binaryValue s
  | .timestamp => stampValue s
  | .text => .ok (.text s)
  | _ => .error (malformed .building)

end TopicReader.Yaml
