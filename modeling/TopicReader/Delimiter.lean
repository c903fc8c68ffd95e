import TopicReader.Failure.Basic
import TopicReader.Number.Whole
import TopicReader.Text.Utf8

/-!
# `Delimiter` — the byte that ends a record or a key

## Contents
- **Escapes.** `escapes`: the letters after a backslash.
- **Reading.** `Delimiter.ofText`: one character of one byte, an escape, or a byte in hexadecimal.

Texts are rows of Unicode scalar values. Half of a surrogate pair is none of them, and is left out.
-/

namespace TopicReader.Delimiter

open TopicReader.Text

/-- What the letters after a backslash stand for. -/
def escapes : List (Char × UInt8) :=
  [('n', 0x0a), ('t', 0x09), ('r', 0x0d), ('0', 0x00), (backslash, 0x5c)]

/-- The byte that an escape letter stands for. -/
def ofEscape? (c : Char) : Option UInt8 := (escapes.find? fun e => e.1 == c).map (·.2)

/-- The byte that two characters spell in base 16; blanks and signs may stand with a digit. -/
def ofHex? (a b : Char) : Option UInt8 :=
  match Whole.readIn 16 (String.ofList [a, b]) with
  | .ok (.ofNat n) => if n < 256 then some (UInt8.ofNat n) else none
  | _ => none

/-- The byte of a delimiter's characters, for texts that are longer than one character. -/
def ofLong? : List Char → Option UInt8
  | [mark, c] => if mark = backslash then ofEscape? c else none
  | [mark, x, a, b] => if mark = backslash ∧ x = 'x' then ofHex? a b else none
  | _ => none

/-- The delimiter that a text names. -/
def ofText (text : String) : Except Failure (List UInt8) :=
  match text.toList with
  | [_] =>
    let bytes := Utf8.encode text
    if bytes.length = 1 then .ok bytes else .error (.misconfigured (.wideDelimiter text))
  | cs =>
    match ofLong? cs with
    | some b => .ok [b]
    | none => .error (.misconfigured (.unknownDelimiter text))

end TopicReader.Delimiter
