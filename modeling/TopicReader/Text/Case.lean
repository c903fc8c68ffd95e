import TopicReader.Text.Blank
import TopicReader.Text.CaseTable

/-!
# `Text.Case` — lower case for every script

## Contents
- **One character.** `lowerOne`: the run that holds it moves it; all else stays.
- **A text.** `lower`: every character in turn, except that a dotted capital I becomes two characters
  and a capital sigma that ends a word becomes a final sigma.
-/

namespace TopicReader.Text

/-- Does the run hold this code point? -/
def LowerRun.holds (r : LowerRun) (n : Nat) : Bool :=
  r.first ≤ n && n ≤ r.last && (n - r.first) % r.stride == 0

/-- The lower case of one character, where that is one character. -/
def lowerOne (c : Char) : Char :=
  if c.toNat < 0x80 then
    if 'A' ≤ c ∧ c ≤ 'Z' then Char.ofNat (c.toNat + 0x20) else c
  else
    match lowerRuns.find? (·.holds c.toNat) with
    | some r => Char.ofNat (c.toNat + r.shift).toNat
    | none => c

/-- A letter that has case, not skipped by word context. -/
def isCased (c : Char) : Bool := inRanges casedRanges c.toNat

/-- A character that word context skips. -/
def isIgnorable (c : Char) : Bool := inRanges ignorableRanges c.toNat

/-- Does the nearest character that is not ignorable have case? -/
def meetsCased (cs : List Char) : Bool :=
  match cs.dropWhile isIgnorable with
  | [] => false
  | c :: _ => isCased c

/-- The lower case of a text, where `before` holds the characters already passed, last one first. -/
def lowerAfter (before : List Char) : List Char → List Char
  | [] => []
  | c :: rest =>
    (if c.toNat = 0x130 then ['i', Char.ofNat 0x307]
     else if c.toNat = 0x3a3 then
       [if meetsCased before && !meetsCased rest then Char.ofNat 0x3c2 else Char.ofNat 0x3c3]
     else [lowerOne c]) ++ lowerAfter (c :: before) rest

/-- The lower case of a text. -/
def lower (s : String) : String := String.ofList (lowerAfter [] s.toList)

end TopicReader.Text
