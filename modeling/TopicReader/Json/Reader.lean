import TopicReader.Json

/-!
# `Json.Reader` — JSON documents from text

## Contents
- **Texts and numbers.** `readText`, `numberOf?`: a number with a point or an exponent is a float.
- **Documents.** `Json.ofText?`; every item takes one unit of fuel, of which the length of the text is enough.
- **Members.** `Json.member?` and the kinds that a member may have.
-/

namespace TopicReader.Json

open TopicReader.Text

/-! ## Texts and numbers -/

/-- The number that digits in base 16 spell. -/
def unitOf (cs : List Char) : Nat := cs.foldl (fun n c => n * 16 + (baseDigitValue c).getD 0) 0

/-- What a letter after a backslash stands for. -/
def unescape (c : Char) : Char :=
  if c = 'n' then '\n'
  else if c = 't' then '\t'
  else if c = 'r' then '\r'
  else if c = 'b' then Char.ofNat 0x8
  else if c = 'f' then Char.ofNat 0xc
  else c

/-- The character of a pair of units. -/
def pairedChar (high low : Nat) : Char := Char.ofNat (0x10000 + (high - 0xd800) * 0x400 + (low - 0xdc00))

/-- Is a unit the first of a pair? -/
def isHigh (unit : Nat) : Bool := 0xd800 ≤ unit && unit < 0xdc00

/-- The characters of a text up to its closing quote, and the rest. -/
def readText : List Char → Option (List Char × List Char)
  | [] => none
  | '\x22' :: rest => some ([], rest)
  | '\x5c' :: 'u' :: a :: b :: c :: d :: '\x5c' :: 'u' :: e :: f :: g :: h :: rest =>
    if isHigh (unitOf [a, b, c, d]) then
      (readText rest).map fun r => (pairedChar (unitOf [a, b, c, d]) (unitOf [e, f, g, h]) :: r.1, r.2)
    else
      (readText ('\x5c' :: 'u' :: e :: f :: g :: h :: rest)).map fun r =>
        (Char.ofNat (unitOf [a, b, c, d]) :: r.1, r.2)
  | '\x5c' :: 'u' :: a :: b :: c :: d :: rest =>
    (readText rest).map fun r => (Char.ofNat (unitOf [a, b, c, d]) :: r.1, r.2)
  | '\x5c' :: c :: rest => (readText rest).map fun r => (unescape c :: r.1, r.2)
  | c :: rest => (readText rest).map fun r => (c :: r.1, r.2)

/-- A character of a number. -/
def isNumberChar (c : Char) : Bool := isAsciiDigit c || ['-', '+', '.', 'e', 'E'].contains c

/-- A number; one with a point or an exponent is a float. -/
def numberOf? (cs : List Char) : Option Json :=
  let s := String.ofList cs
  if cs.any fun c => c = '.' || c = 'e' || c = 'E' then (Double.read? s).map .float
  else (s.toInt?).map .int

/-- The text without blanks in front. -/
def skipBlank (cs : List Char) : List Char :=
  cs.dropWhile fun c => c = ' ' || c = '\n' || c = '\t' || c = '\r'

/-! ## Documents -/

mutual

/-- The document at the front of a text, and the rest. -/
def readValue (fuel : Nat) (cs : List Char) : Option (Json × List Char) :=
  match fuel with
  | 0 => none
  | fuel + 1 =>
    match skipBlank cs with
    | 'n' :: 'u' :: 'l' :: 'l' :: rest => some (.null, rest)
    | 't' :: 'r' :: 'u' :: 'e' :: rest => some (.bool true, rest)
    | 'f' :: 'a' :: 'l' :: 's' :: 'e' :: rest => some (.bool false, rest)
    | '\x22' :: rest => (readText rest).map fun r => (.text (String.ofList r.1), r.2)
    | '[' :: rest => (readItems fuel rest).map fun r => (.array r.1, r.2)
    | '\x7b' :: rest => (readMembers fuel rest).map fun r => (.object r.1, r.2)
    | cs => (numberOf? (cs.takeWhile isNumberChar)).map fun j => (j, cs.dropWhile isNumberChar)

/-- The items of an array up to its end. -/
def readItems (fuel : Nat) (cs : List Char) : Option (List Json × List Char) :=
  match fuel with
  | 0 => none
  | fuel + 1 =>
    match skipBlank cs with
    | ']' :: rest => some ([], rest)
    | ',' :: rest => readItems fuel rest
    | cs =>
      match readValue fuel cs with
      | some (j, rest) => (readItems fuel rest).map fun r => (j :: r.1, r.2)
      | none => none

/-- The members of an object up to its end. -/
def readMembers (fuel : Nat) (cs : List Char) : Option (List (String × Json) × List Char) :=
  match fuel with
  | 0 => none
  | fuel + 1 =>
    match skipBlank cs with
    | '\x7d' :: rest => some ([], rest)
    | ',' :: rest => readMembers fuel rest
    | '\x22' :: rest =>
      match readText rest with
      | some (name, rest) =>
        match skipBlank rest with
        | ':' :: rest =>
          match readValue fuel rest with
          | some (j, rest) =>
            (readMembers fuel rest).map fun r => ((String.ofList name, j) :: r.1, r.2)
          | none => none
        | _ => none
      | none => none
    | _ => none

end

/-- The document that a text holds. -/
def ofText? (s : String) : Option Json :=
  let cs := s.toList
  match readValue (cs.length + 1) cs with
  | some (j, rest) => if (skipBlank rest).isEmpty then some j else none
  | none => none

/-! ## Members -/

/-- The members of an object. -/
def members : Json → List (String × Json)
  | .object ms => ms
  | _ => []

/-- The items of an array. -/
def items : Json → List Json
  | .array xs => xs
  | _ => []

/-- A member that is there. -/
def member? (j : Json) (name : String) : Option Json :=
  (j.members.find? fun m => m.1 == name).map (·.2)

/-- A member that is there and not null. -/
def given? (j : Json) (name : String) : Option Json :=
  match j.member? name with
  | some .null | none => none
  | some v => some v

/-- A member, null where it is not there. -/
def member (j : Json) (name : String) : Json := (j.member? name).getD .null

/-- The text of a document that is one. -/
def text? : Json → Option String
  | .text s => some s
  | _ => none

/-- The integer of a document that is one. -/
def int? : Json → Option Int
  | .int n => some n
  | _ => none

/-- The truth value of a document that is one. -/
def bool? : Json → Option Bool
  | .bool b => some b
  | _ => none

/-- The number of a document that is one, as a binary64 number. -/
def double? : Json → Option Double
  | .int n => some (Double.ofInt n)
  | .float x => some x
  | _ => none

end TopicReader.Json
