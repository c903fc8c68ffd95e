import TopicReader.Text.Blank
import TopicReader.Text.Digit

/-!
# `Number.Whole` — integers from text

## Contents
- **The grammar.** Padding, a sign, an optional base mark, then digits of any script with single
  underscores between them, then padding: `readDigitRun`, `readSigned`, `read`.
- **The limit.** A decimal text of more than `digitLimit` digits is refused.
- **Why not.** `Whole.Refusal`.
-/

namespace TopicReader.Whole

open TopicReader.Text

/-- The greatest number of digits that a decimal text may have. -/
def digitLimit : Nat := 4300

/-- Why a text is not read as an integer. -/
inductive Refusal where
  | malformed
  | tooLong (digits : Nat)
deriving DecidableEq, Repr

/-- The value of a digit in the base, if it is one. -/
def digitIn (base : Nat) (c : Char) : Option Nat :=
  match baseDigitValue c with
  | some d => if d < base then some d else none
  | none => none

/-- Digits with single underscores between them: their value, their count, and what follows.
    `afterMark` says that an underscore may stand here, because a digit or a base mark came before. -/
def readDigitRun (base : Nat) (afterMark : Bool) (value count : Nat) :
    List Char → Option (Nat × Nat × List Char)
  | [] => some (value, count, [])
  | c :: rest =>
    match digitIn base c with
    | some d => readDigitRun base true (value * base + d) (count + 1) rest
    | none =>
      if c = '_' then
        match rest with
        | next :: _ =>
          if afterMark ∧ (digitIn base next).isSome then readDigitRun base false value count rest
          else none
        | [] => none
      else some (value, count, c :: rest)

/-- The letter that marks a base in front of its digits. -/
def baseMark : Nat → Option Char
  | 2 => some 'b'
  | 8 => some 'o'
  | 16 => some 'x'
  | _ => none

/-- Drop a base mark such as `0x`, and say whether there was one. -/
def dropBaseMark (base : Nat) : List Char → Bool × List Char
  | '0' :: c :: rest =>
    if baseMark base = some c.toLower then (true, rest) else (false, '0' :: c :: rest)
  | cs => (false, cs)

/-- Read the digits after a sign. The length limit is for bases that are not a power of two, and it is
    met before anything that follows the digits is looked at. -/
def readUnsigned (base : Nat) (cs : List Char) : Except Refusal Nat :=
  let marked := dropBaseMark base cs
  match readDigitRun base marked.1 0 0 marked.2 with
  | none => .error .malformed
  | some (value, count, rest) =>
    if base = 10 ∧ digitLimit < count then .error (.tooLong count)
    else if count = 0 ∨ rest ≠ [] then .error .malformed
    else .ok value

/-- Read an integer after its padding has been trimmed. -/
def readSigned (base : Nat) : List Char → Except Refusal Int
  | '-' :: rest => (readUnsigned base rest).map fun n => -(n : Int)
  | '+' :: rest => (readUnsigned base rest).map fun n => (n : Int)
  | cs => (readUnsigned base cs).map fun n => (n : Int)

/-- Read an integer in the given base. -/
def readIn (base : Nat) (s : String) : Except Refusal Int := readSigned base (trimPadding s.toList)

/-- Read a decimal integer. -/
def read (s : String) : Except Refusal Int := readIn 10 s

end TopicReader.Whole
