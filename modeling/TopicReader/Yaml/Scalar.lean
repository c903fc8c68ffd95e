import TopicReader.Yaml.Cursor
import TopicReader.Text.Digit
import TopicReader.Text.Quoted

/-!
# `Yaml.Scalar` — the text of a scalar in each of its styles

## Contents
- **Plain.** `Scalar.plain`: words up to a mark that ends them; a single line break counts as a space.
- **Quoted.** `Scalar.quoted`: with or without escapes, folded like a plain scalar.
- **Block.** `Scalar.block`: lines of one indentation, literal or folded, with a rule for the last break.

Every loop takes as fuel the number of characters left, of which each round passes at least one.

A text is a row of whole characters. An escape may also name half of a pair of codes, which no text here can
hold: there reading ends with a mishap of its own (`halfCharacter`), so that laws about documents can leave such
documents out.
-/

namespace TopicReader.Yaml.Scalar

open TopicReader.Text

/-- The failure of a text that cannot be divided into tokens. -/
def unscannable : Failure := malformed .scanning

/-- Breaks between two lines as they are read: a single line feed is a space. -/
def foldBreaks (first : Char) (more : List Char) : List Char :=
  (if first != '\n' then [first] else if more.isEmpty then [' '] else []) ++ more

/-! ## Plain -/

/-- The brackets and commas of the flow style. -/
def isFlowMark (c : Char) : Bool := c == ',' || c == '[' || c == ']' || c == '\x7b' || c == '\x7d'

/-- Does a plain scalar end at `c`, when `next` follows it? -/
def endsPlain (flow : Bool) (c next : Char) : Bool :=
  isGap c || (c == ':' && (isGap next || (flow && isFlowMark next))) ||
    (flow && (c == '?' || isFlowMark c))

/-- The characters of a plain scalar up to a gap or a mark. -/
def plainChars (flow : Bool) : List Char → List Char
  | [] => []
  | c :: rest => if endsPlain flow c (rest.headD endMark) then [] else c :: plainChars flow rest

/-- The next run of a plain scalar. Whether a colon ends it depends on the character after that. -/
def plainRun (flow : Bool) (c : Cursor) : Except Failure (List Char) := do
  let run := plainChars flow c.rest
  if (← c.ahead run.length) == ':' then
    let _ ← c.ahead (run.length + 1)
  return run

/-- What stands between two runs: its text (none if the scalar ends here), whether a line was left, and
    where the next run starts. -/
structure Gap where
  text : List Char
  crossed : Bool
  cursor : Cursor
deriving Repr

/-- Pass spaces and breaks. Breaks are collected, and a document mark at the start of a line ends all. -/
def passBreaks : Nat → Cursor → List Char → Except Failure (Option (List Char) × Cursor)
  | 0, c, breaks => .ok (some breaks, c)
  | fuel + 1, c, breaks => do
    if c.here == ' ' then passBreaks fuel (← c.next) breaks
    else
      match ← c.takeBreak with
      | none => return (some breaks, c)
      | some (b, c) =>
        if ← c.atDocumentMark then return (none, c) else passBreaks fuel c (breaks ++ [b])

/-- The gap after a run of a plain scalar. -/
def plainGap (c : Cursor) : Except Failure Gap := do
  let spaces := c.rest.takeWhile (· == ' ')
  let c ← c.advance spaces.length
  match ← c.takeBreak with
  | none => return ⟨spaces, false, c⟩
  | some (b, c) =>
    if ← c.atDocumentMark then return ⟨[], true, c⟩
    match ← passBreaks c.rest.length c [] with
    | (none, c) => return ⟨[], true, c⟩
    | (some more, c) => return ⟨foldBreaks b more, true, c⟩

/-- A scalar that was read, whether the reading ended on a new line, and what follows. -/
structure Read where
  text : List Char
  crossed : Bool
  cursor : Cursor
deriving Repr

/-- The runs of a plain scalar; lines after the first must start at `indent` or further right, unless in
    the flow style. -/
def plainRuns (flow : Bool) (indent : Int) :
    Nat → Cursor → List Char → List Char → Bool → Except Failure Read
  | 0, c, acc, _, crossed => .ok ⟨acc, crossed, c⟩
  | fuel + 1, c, acc, between, crossed => do
    if c.here == '#' then return ⟨acc, crossed, c⟩
    let run ← plainRun flow c
    if run.isEmpty then return ⟨acc, crossed, c⟩
    let gap ← plainGap (← c.advance run.length)
    let acc := acc ++ between ++ run
    if gap.text.isEmpty || gap.cursor.here == '#' || (!flow && gap.cursor.column < indent) then
      return ⟨acc, gap.crossed, gap.cursor⟩
    else plainRuns flow indent fuel gap.cursor acc gap.text gap.crossed

/-- A plain scalar. -/
def plain (flow : Bool) (indent : Int) (c : Cursor) : Except Failure Read :=
  plainRuns flow indent c.rest.length c [] [] false

/-! ## Quoted -/

/-- The escapes that stand for one fixed character. -/
def namedEscapes : List (Char × Nat) :=
  [('0', 0), ('a', 7), ('b', 8), ('t', 9), ('\t', 9), ('n', 10), ('v', 11), ('f', 12), ('r', 13),
   ('e', 0x1b), (' ', 0x20), (doubleQuote, 0x22), (backslash, 0x5c), ('/', 0x2f), ('N', 0x85),
   ('_', 0xa0), ('L', 0x2028), ('P', 0x2029)]

/-- The number of hexadecimal digits that an escape takes. -/
def escapeWidth (c : Char) : Option Nat :=
  if c == 'x' then some 2 else if c == 'u' then some 4 else if c == 'U' then some 8 else none

/-- The value of hexadecimal digits. -/
def hexNumber (cs : List Char) : Nat :=
  cs.foldl (fun acc c => acc * 16 + (baseDigitValue c).getD 0) 0

/-- The character of a code. -/
def charOfCode (code : Nat) : Except Failure Char :=
  if 0xd800 ≤ code ∧ code ≤ 0xdfff then .error (.mishap .halfCharacter "half of a character")
  else if code ≤ 0x10ffff then .ok (Char.ofNat code)
  else if code < 0x80000000 then .error (.mishap .wrongValue "character code out of range")
  else .error (.mishap .outOfRange "character code out of range")

/-- A number of hexadecimal digits. -/
def hexDigits (width : Nat) (c : Cursor) : Except Failure (List Char) := do
  let digits := c.rest.take width
  if !digits.all isHexDigit then throw unscannable
  if digits.length < width then
    let _ ← c.ahead digits.length
    throw unscannable
  return digits

/-- Empty lines inside a quoted scalar. -/
def quotedBreaks : Nat → Cursor → List Char → Except Failure (List Char × Cursor)
  | 0, c, breaks => .ok (breaks, c)
  | fuel + 1, c, breaks => do
    if ← c.atDocumentMark then throw unscannable
    let c ← c.skipWhile isIndentBlank
    match ← c.takeBreak with
    | none => return (breaks, c)
    | some (b, c) => quotedBreaks fuel c (breaks ++ [b])

/-- What an escape stands for; the cursor is after the backslash. -/
def escape (c : Cursor) : Except Failure (List Char × Cursor) := do
  match namedEscapes.find? fun e => e.1 == c.here with
  | some e => return ([Char.ofNat e.2], ← c.next)
  | none =>
    match escapeWidth c.here with
    | some width =>
      let c ← c.next
      let x ← charOfCode (hexNumber (← hexDigits width c))
      return ([x], ← c.advance width)
    | none =>
      match ← c.takeBreak with
      | some (_, c) => quotedBreaks (c.rest.length + 1) c []
      | none => throw unscannable

/-- Stands for itself in a quoted scalar. -/
def isQuotedText (c : Char) : Bool :=
  !(c == apostrophe || c == doubleQuote || c == backslash || isGap c)

/-- The text of a quoted scalar up to a gap or its closing quote. -/
def quotedRun (escapes : Bool) : Nat → Cursor → List Char → Except Failure (List Char × Cursor)
  | 0, c, acc => .ok (acc, c)
  | fuel + 1, c, acc => do
    let run := c.rest.takeWhile isQuotedText
    let c ← c.advance run.length
    let acc := acc ++ run
    let ch := c.here
    if !escapes && ch == apostrophe then
      if (← c.ahead 1) == apostrophe then
        quotedRun escapes fuel (← c.advance 2) (acc ++ [apostrophe])
      else return (acc, c)
    else if (escapes && ch == apostrophe) || (!escapes && (ch == doubleQuote || ch == backslash)) then
      quotedRun escapes fuel (← c.next) (acc ++ [ch])
    else if escapes && ch == backslash then
      let (cs, c) ← escape (← c.next)
      quotedRun escapes fuel c (acc ++ cs)
    else return (acc, c)

/-- The gap after a run of a quoted scalar. -/
def quotedGap (c : Cursor) : Except Failure (List Char × Cursor) := do
  let blanks := c.rest.takeWhile isIndentBlank
  let c ← c.advance blanks.length
  if c.atEnd then throw unscannable
  match ← c.takeBreak with
  | none => return (blanks, c)
  | some (b, c) =>
    let (more, c) ← quotedBreaks (c.rest.length + 1) c []
    return (foldBreaks b more, c)

/-- The runs of a quoted scalar and the gaps between them. -/
def quotedRuns (escapes : Bool) : Nat → Cursor → List Char → Except Failure Read
  | 0, _, _ => .error unscannable
  | fuel + 1, c, acc => do
    let (run, c) ← quotedRun escapes (c.rest.length + 1) c []
    if c.here == (if escapes then doubleQuote else apostrophe) then
      return ⟨acc ++ run, false, ← c.next⟩
    else
      let (gap, c) ← quotedGap c
      quotedRuns escapes fuel c (acc ++ run ++ gap)

/-- A quoted scalar; the cursor is at its opening quote. -/
def quoted (escapes : Bool) (c : Cursor) : Except Failure Read := do
  quotedRuns escapes (c.rest.length + 1) (← c.next) []

/-! ## Block -/

/-- What to do with the breaks at the end of a block scalar, and its indentation if that is given. -/
structure Header where
  keep : Option Bool
  indent : Option Nat
deriving Repr

/-- A sign of the header: keep the breaks at the end, or drop them. -/
def headerSign (c : Cursor) : Except Failure (Option Bool × Cursor) := do
  if c.here == '+' then return (some true, ← c.next)
  else if c.here == '-' then return (some false, ← c.next)
  else return (none, c)

/-- The size of the header: one digit that is not zero. -/
def headerSize (c : Cursor) : Except Failure (Option Nat × Cursor) := do
  if !isAsciiDigit c.here then return (none, c)
  else if c.here == '0' then throw unscannable
  else return (some (c.here.toNat - 0x30), ← c.next)

/-- The header after the style mark: two marks in either order. -/
def header (c : Cursor) : Except Failure (Header × Cursor) := do
  let (first, c) ← headerSign c
  let (indent, c) ← headerSize c
  let (keep, c) ← if first.isSome || indent.isNone then pure (first, c) else headerSign c
  if isSpaceOrEnd c.here then return (⟨keep, indent⟩, c) else throw unscannable

/-- The rest of a line that holds nothing but a comment. -/
def passLineEnd (c : Cursor) : Except Failure Cursor := do
  let c ← c.skipWhile (· == ' ')
  let c ← if c.here == '#' then c.skipWhile (!isLineEnd ·) else pure c
  if !isLineEnd c.here then throw unscannable
  match ← c.takeBreak with
  | some (_, c) => return c
  | none => return c

/-- The empty lines before a block scalar, and the greatest column that spaces reach there. -/
def leadingLines : Nat → Cursor → List Char → Nat → Except Failure (List Char × Nat × Cursor)
  | 0, c, breaks, widest => .ok (breaks, widest, c)
  | fuel + 1, c, breaks, widest => do
    if c.here == ' ' then
      let c ← c.next
      leadingLines fuel c breaks (max widest c.column)
    else
      match ← c.takeBreak with
      | some (b, c) => leadingLines fuel c (breaks ++ [b]) widest
      | none => return (breaks, widest, c)

/-- The empty lines inside a block scalar, up to the indentation of the line after them. -/
def emptyLines (indent : Nat) : Nat → Cursor → List Char → Except Failure (List Char × Cursor)
  | 0, c, breaks => .ok (breaks, c)
  | fuel + 1, c, breaks => do
    let c ← c.indentTo indent
    match ← c.takeBreak with
    | some (b, c) => emptyLines indent fuel c (breaks ++ [b])
    | none => return (breaks, c)

/-- The lines of a block scalar so far: the text, the break after the last line, and the breaks of the
    empty lines after that. -/
structure Lines where
  text : List Char
  ending : List Char
  empties : List Char
  cursor : Cursor
deriving Repr

/-- Does a line of the block start here? -/
def atLine (indent : Nat) (c : Cursor) : Bool := c.column == indent && !c.atEnd

/-- Read line after line. Folded, a break between two lines that start with no blank is a space, unless
    empty lines stand between them. -/
def blockLines (folded : Bool) (indent : Nat) : Nat → Lines → Except Failure Lines
  | 0, b => .ok b
  | fuel + 1, b => do
    if !atLine indent b.cursor then return b
    let solid := !isIndentBlank b.cursor.here
    let run := b.cursor.rest.takeWhile (!isBreak ·)
    let c ← b.cursor.advance run.length
    let (ending, c) :=
      match ← c.takeBreak with
      | some (x, c) => ([x], c)
      | none => ([], c)
    let (empties, c) ← emptyLines indent (c.rest.length + 1) c []
    let text := b.text ++ b.empties ++ run
    if atLine indent c then
      let joint :=
        if folded && ending == ['\n'] && solid && !isIndentBlank c.here then
          (if empties.isEmpty then [' '] else [])
        else ending
      blockLines folded indent fuel ⟨text ++ joint, ending, empties, c⟩
    else return ⟨text, ending, empties, c⟩

/-- A block scalar; the cursor is after its style mark, and `parent` is the indentation around it. -/
def block (folded : Bool) (parent : Int) (c : Cursor) : Except Failure Read := do
  let (h, c) ← header c
  let c ← passLineEnd c
  let least := max (parent + 1) 1
  let (indent, empties, c) ←
    match h.indent with
    | some n => do
      let indent := (least + n - 1).toNat
      let (empties, c) ← emptyLines indent (c.rest.length + 1) c []
      pure (indent, empties, c)
    | none => do
      let (empties, widest, c) ← leadingLines c.rest.length c [] 0
      pure ((max least widest).toNat, empties, c)
  let lines ← blockLines folded indent c.rest.length ⟨[], [], empties, c⟩
  let ending := if h.keep = some false then [] else lines.ending
  let empties := if h.keep = some true then lines.empties else []
  return ⟨lines.text ++ ending ++ empties, true, lines.cursor⟩

end TopicReader.Yaml.Scalar
