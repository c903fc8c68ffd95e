import TopicReader.Yaml.Source

/-!
# `Yaml.Cursor` — a place in a document, with its line and column

The character at a cursor is always readable; to look or go further may meet the fault behind the text.

## Contents
- **Classes.** `isBreak` (line breaks), `isGap` (blanks, breaks and the end), `isLineEnd`, `isSpaceOrEnd`.
- **The cursor.** `Cursor`: what is left of the text, the fault behind it, and where that starts.
- **Looking.** `here`, `ahead`, `atMark`.
- **Moving.** `next`, `advance`, `skipWhile`, `takeBreak`, `indentTo`.
-/

namespace TopicReader.Yaml

/-- What stands after the last character. -/
def endMark : Char := Char.ofNat 0

/-- The mark that may stand in front of a text to tell the order of its bytes. -/
def byteOrderMark : Char := Char.ofNat 0xfeff

/-- A line break. -/
def isBreak (c : Char) : Bool :=
  c == '\n' || c == '\r' || c.toNat == 0x85 || c.toNat == 0x2028 || c.toNat == 0x2029

/-- The end of a line or of the text. -/
def isLineEnd (c : Char) : Bool := c == endMark || isBreak c

/-- A space, a line break or the end of the text. -/
def isSpaceOrEnd (c : Char) : Bool := c == ' ' || isLineEnd c

/-- A space, a tab, a line break or the end of the text. -/
def isGap (c : Char) : Bool := c == '\t' || isSpaceOrEnd c

/-- A space or a tab. -/
def isIndentBlank (c : Char) : Bool := c == ' ' || c == '\t'

/-- A place in a document. -/
structure Cursor where
  rest : List Char
  fault : Option Failure
  line : Nat
  column : Nat
  index : Nat
deriving Repr

namespace Cursor

/-- The cursor, unless nothing but a fault is left. -/
def readable (c : Cursor) : Except Failure Cursor :=
  match c.rest, c.fault with
  | [], some f => .error f
  | _, _ => .ok c

/-- The start of a text. -/
def start (s : Source) : Except Failure Cursor := readable ⟨s.text, s.fault, 0, 0, 0⟩

/-! ## Looking -/

/-- The character at the cursor. -/
def here (c : Cursor) : Char := c.rest.headD endMark

/-- Is the text used up? -/
def atEnd (c : Cursor) : Bool := c.rest.isEmpty

/-- The character `k` places ahead. -/
def ahead (c : Cursor) (k : Nat) : Except Failure Char :=
  match c.rest.drop k, c.fault with
  | ch :: _, _ => .ok ch
  | [], some f => .error f
  | [], none => .ok endMark

/-- Do the next three characters all equal one of the marks, with a gap after them? -/
def atMark (c : Cursor) (marks : List Char) : Except Failure Bool := do
  let _ ← c.ahead 2
  if marks.any fun m => c.rest.take 3 == [m, m, m] then return isGap (← c.ahead 3)
  else return false

/-- Three dashes or dots that stand alone. -/
def atDocumentMark (c : Cursor) : Except Failure Bool := c.atMark ['-', '.']

/-! ## Moving -/

/-- Pass one character. A carriage return before a line feed does not end the line, and a byte-order mark
    takes no column. -/
def next (c : Cursor) : Except Failure Cursor :=
  match c.rest with
  | [] => .ok c
  | ch :: rest =>
    readable
      (if isBreak ch && !(ch == '\r' && rest.headD endMark == '\n') then
        ⟨rest, c.fault, c.line + 1, 0, c.index + 1⟩
      else if ch == byteOrderMark then ⟨rest, c.fault, c.line, c.column, c.index + 1⟩
      else ⟨rest, c.fault, c.line, c.column + 1, c.index + 1⟩)

/-- Pass `n` characters. -/
def advance (c : Cursor) : Nat → Except Failure Cursor
  | 0 => .ok c
  | n + 1 => do (← c.next).advance n

/-- Pass the characters in front that have a property. -/
def skipWhile (c : Cursor) (p : Char → Bool) : Except Failure Cursor :=
  c.advance (c.rest.takeWhile p).length

/-- Pass a line break, and say what it counts as: two separators stay what they are, all else is a
    line feed. -/
def takeBreak (c : Cursor) : Except Failure (Option (Char × Cursor)) := do
  if !isBreak c.here then return none
  else if c.here.toNat == 0x2028 || c.here.toNat == 0x2029 then return some (c.here, ← c.next)
  else
    let second ← c.ahead 1
    return some ('\n', ← c.advance (if c.here == '\r' && second == '\n' then 2 else 1))

/-- Pass spaces up to a column. -/
def indentTo (c : Cursor) (column : Nat) : Except Failure Cursor :=
  c.advance (min (c.rest.takeWhile (· == ' ')).length (column - c.column))

end Cursor

end TopicReader.Yaml
