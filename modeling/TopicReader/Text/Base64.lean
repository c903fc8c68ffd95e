/-!
# `Text.Base64` — bytes from text in base 64

## Contents
- **Digits.** `Base64.digit`: the sixty-four characters; all others are passed over, but for padding.
- **Reading.** `Base64.decode?`: groups of four digits are three bytes; the last group may be padded.
-/

namespace TopicReader.Text.Base64

/-- The value of a digit. -/
def digit (c : Char) : Option Nat :=
  if 'A' ≤ c ∧ c ≤ 'Z' then some (c.toNat - 0x41)
  else if 'a' ≤ c ∧ c ≤ 'z' then some (c.toNat - 0x61 + 26)
  else if '0' ≤ c ∧ c ≤ '9' then some (c.toNat - 0x30 + 52)
  else if c = '+' then some 62
  else if c = '/' then some 63
  else none

/-- Read on with `held` of a group's digits in `bits`, and `pads` padding marks since the last digit.
    Enough padding ends the text. -/
def decodeFrom (held bits pads : Nat) : List Char → Option (List UInt8)
  | [] => if held = 0 then some [] else none
  | c :: rest =>
    if c = '=' then
      if 2 ≤ held ∧ 4 ≤ held + pads + 1 then some [] else decodeFrom held bits (pads + 1) rest
    else
      match digit c with
      | none => decodeFrom held bits pads rest
      | some d =>
        let value := bits * 64 + d
        match held with
        | 0 => decodeFrom 1 d 0 rest
        | 1 => (decodeFrom 2 (value % 16) 0 rest).map (UInt8.ofNat (value / 16) :: ·)
        | 2 => (decodeFrom 3 (value % 4) 0 rest).map (UInt8.ofNat (value / 4) :: ·)
        | _ => (decodeFrom 0 0 0 rest).map (UInt8.ofNat value :: ·)

/-- The bytes that a text stands for. -/
def decode? (cs : List Char) : Option (List UInt8) := decodeFrom 0 0 0 cs

end TopicReader.Text.Base64
