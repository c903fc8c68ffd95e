import TopicReader.Yaml.Token

/-!
# `Yaml.Token.Stream` — the tokens of a text, read when they are asked for

Indentation is turned into tokens that open and close blocks. A scalar is known to be a key only when the
mark after it is met, so a key token is put in front of it afterwards; until then the scalar is a candidate,
and the text is read on before it is handed over.

## Contents
- **State.** `Stream`: the cursor, the nesting, the candidates, and the tokens that wait.
- **Nesting.** `closeBlocks`, `openBlock`.
- **Candidates.** `dropStale`, `dropCandidate`, `addCandidate`.
- **Marks.** One function a kind of token; `Stream.step` chooses by the next character.
- **On demand.** `Stream.peek` and `Stream.pop`.
-/

namespace TopicReader.Yaml

open TopicReader.Text
open Scalar (unscannable)

/-- A token that may turn out to start a key: its number among all tokens and its place in the text. -/
structure Candidate where
  token : Nat
  required : Bool
  index : Nat
  line : Nat
  column : Nat
deriving Repr

/-- The state of reading tokens. `candidates` holds at most one for each level of flow nesting, `waiting`
    the tokens read and not handed over, and `taken` the number of those that were. The level goes below
    zero where brackets close that were never opened. -/
structure Stream where
  cursor : Cursor
  size : Nat
  flow : Int
  indent : Int
  indents : List Int
  keyAllowed : Bool
  candidates : List (Int × Candidate)
  waiting : List Token
  taken : Nat
  finished : Bool
deriving Repr

namespace Stream

/-- The start of a text. -/
def start (s : Source) : Except Failure Stream :=
  (Cursor.start s).map fun c =>
    { cursor := c, size := s.text.length, flow := 0, indent := -1, indents := [], keyAllowed := true,
      candidates := [], waiting := [], taken := 0, finished := false }

/-- Add a token. -/
def emit (s : Stream) (t : Token) : Stream := { s with waiting := s.waiting ++ [t] }

/-- Pass `n` characters and add a token. -/
def mark (s : Stream) (n : Nat) (t : Token) : Except Failure Stream := do
  return { s.emit t with cursor := ← s.cursor.advance n }

/-! ## Nesting -/

/-- Close the blocks, innermost first, that are indented more than a column. -/
def closeFrom (column : Int) (s : Stream) : List Int → Stream
  | [] => s
  | outer :: rest =>
    if column < s.indent then
      closeFrom column { s.emit .blockEnd with indent := outer, indents := rest } rest
    else s

/-- Close the blocks that are indented more than a column; the flow style knows no indentation. -/
def closeBlocks (s : Stream) (column : Int) : Stream :=
  if s.flow = 0 then closeFrom column s s.indents else s

/-- Open a block at a column, if that is further right than the innermost one. -/
def openBlock (s : Stream) (column : Int) (t : Token) : Stream :=
  if s.indent < column then
    { s.emit t with indents := s.indent :: s.indents, indent := column }
  else s

/-! ## Candidates -/

/-- The candidate of the current level. -/
def candidate? (s : Stream) : Option Candidate :=
  (s.candidates.find? fun k => k.1 == s.flow).map (·.2)

/-- The number of the first token that is a candidate. -/
def firstCandidate? (s : Stream) : Option Nat :=
  s.candidates.foldl (fun least k => some (min k.2.token (least.getD k.2.token))) none

/-- Is a candidate too far away, or on an earlier line? -/
def isStale (c : Cursor) (k : Candidate) : Bool := k.line != c.line || k.index + 1024 < c.index

/-- Forget the candidates that can no longer be keys; a required one must become a key. -/
def dropStale (s : Stream) : Except Failure Stream :=
  if s.candidates.any fun k => isStale s.cursor k.2 && k.2.required then .error unscannable
  else .ok { s with candidates := s.candidates.filter fun k => !isStale s.cursor k.2 }

/-- Forget the candidate of the current level. -/
def dropCandidate (s : Stream) : Except Failure Stream :=
  if (s.candidate?.map (·.required)).getD false then .error unscannable
  else .ok { s with candidates := s.candidates.filter fun k => k.1 != s.flow }

/-- The next token is a candidate, where keys are allowed. -/
def addCandidate (s : Stream) : Except Failure Stream :=
  if !s.keyAllowed then .ok s
  else do
    let s ← s.dropCandidate
    let k : Candidate :=
      { token := s.taken + s.waiting.length, required := s.flow == 0 && s.indent == s.cursor.column,
        index := s.cursor.index, line := s.cursor.line, column := s.cursor.column }
    return { s with candidates := (s.flow, k) :: s.candidates }

/-! ## Marks -/

/-- The end of the text. -/
def finish (s : Stream) : Except Failure Stream := do
  let s ← (s.closeBlocks (-1)).dropCandidate
  return { s.emit .streamEnd with keyAllowed := false, candidates := [], finished := true }

/-- A directive. -/
def takeDirective (s : Stream) : Except Failure Stream := do
  let s ← (s.closeBlocks (-1)).dropCandidate
  let (t, c) ← Token.directiveAt s.cursor
  return { s.emit t with keyAllowed := false, cursor := c }

/-- The start or the end of a document. -/
def takeDocumentMark (s : Stream) (t : Token) : Except Failure Stream := do
  let s ← (s.closeBlocks (-1)).dropCandidate
  return { (← s.mark 3 t) with keyAllowed := false }

/-- An opening bracket. -/
def openFlow (s : Stream) (t : Token) : Except Failure Stream := do
  let s ← s.addCandidate
  return { (← s.mark 1 t) with flow := s.flow + 1, keyAllowed := true }

/-- A closing bracket. -/
def closeFlow (s : Stream) (t : Token) : Except Failure Stream := do
  let s ← s.dropCandidate
  return { (← s.mark 1 t) with flow := s.flow - 1, keyAllowed := false }

/-- A comma in the flow style. -/
def takeComma (s : Stream) : Except Failure Stream := do
  let s ← s.dropCandidate
  return { (← s.mark 1 .comma) with keyAllowed := true }

/-- The dash of an entry. -/
def takeEntry (s : Stream) : Except Failure Stream := do
  if s.flow = 0 && !s.keyAllowed then throw unscannable
  let s := if s.flow = 0 then s.openBlock s.cursor.column .blockSequence else s
  let s ← s.dropCandidate
  return { (← s.mark 1 .entry) with keyAllowed := true }

/-- The question mark of a key. -/
def takeKey (s : Stream) : Except Failure Stream := do
  if s.flow = 0 && !s.keyAllowed then throw unscannable
  let s := if s.flow = 0 then s.openBlock s.cursor.column .blockMapping else s
  let s ← s.dropCandidate
  return { (← s.mark 1 .key) with keyAllowed := s.flow == 0 }

/-- The colon of a value whose key was a candidate: the tokens that say so go in front of that. -/
def confirmKey (s : Stream) (k : Candidate) : Stream :=
  let opens := s.flow == 0 && s.indent < k.column
  let marks := if opens then [Token.blockMapping, .key] else [.key]
  let place := k.token - s.taken
  { s with
    waiting := s.waiting.take place ++ marks ++ s.waiting.drop place
    candidates := s.candidates.filter fun c => c.1 != s.flow
    indents := if opens then s.indent :: s.indents else s.indents
    indent := if opens then k.column else s.indent
    keyAllowed := false }

/-- The colon of a value. -/
def takeValue (s : Stream) : Except Failure Stream :=
  match s.candidate? with
  | some k => (s.confirmKey k).mark 1 .value
  | none => do
    if s.flow = 0 && !s.keyAllowed then throw unscannable
    let s := if s.flow = 0 then s.openBlock s.cursor.column .blockMapping else s
    let s ← ({ s with keyAllowed := s.flow == 0 } : Stream).dropCandidate
    s.mark 1 .value

/-- An anchor or an alias. -/
def takeName (s : Stream) (make : String → Token) : Except Failure Stream := do
  let s ← s.addCandidate
  let (name, c) ← Token.anchorName (← s.cursor.next)
  return { s.emit (make name) with keyAllowed := false, cursor := c }

/-- A tag. -/
def takeTag (s : Stream) : Except Failure Stream := do
  let s ← s.addCandidate
  let (t, c) ← Token.tagAt s.cursor
  return { s.emit t with keyAllowed := false, cursor := c }

/-- A block scalar. -/
def takeBlock (s : Stream) (folded : Bool) : Except Failure Stream := do
  let s ← s.dropCandidate
  let r ← Scalar.block folded s.indent (← s.cursor.next)
  return { s.emit (.scalar false (String.ofList r.text)) with keyAllowed := true, cursor := r.cursor }

/-- A quoted scalar. -/
def takeQuoted (s : Stream) (escapes : Bool) : Except Failure Stream := do
  let s ← s.addCandidate
  let r ← Scalar.quoted escapes s.cursor
  return { s.emit (.scalar false (String.ofList r.text)) with keyAllowed := false, cursor := r.cursor }

/-- A plain scalar. -/
def takePlain (s : Stream) : Except Failure Stream := do
  let s ← s.addCandidate
  let r ← Scalar.plain (s.flow != 0) (s.indent + 1) s.cursor
  return { s.emit (.scalar true (String.ofList r.text)) with keyAllowed := r.crossed, cursor := r.cursor }

/-- The characters that start no plain scalar, unless text follows some of them at once. -/
def isIndicator (c : Char) : Bool :=
  "-?:,[]\x7b\x7d#&*!|>%@".toList.contains c || c == apostrophe || c == doubleQuote || c.toNat == 0x60

/-- Can a plain scalar start here? -/
def startsPlain (flow : Bool) (c : Cursor) : Except Failure Bool := do
  if !(isGap c.here || isIndicator c.here) then return true
  else
    let next ← c.ahead 1
    return !isGap next && (c.here == '-' || (!flow && (c.here == '?' || c.here == ':')))

/-- Does a mark stand alone here? In the flow style a key or a value mark always does. -/
def standsAlone (anyway : Bool) (c : Cursor) : Except Failure Bool := do
  if anyway then return true else return isGap (← c.ahead 1)

/-- Pass spaces, comments and breaks up to the next token. A new line allows a key outside the flow
    style. -/
def skipGaps : Nat → Stream → Except Failure Stream
  | 0, s => .ok s
  | fuel + 1, s => do
    let c ← s.cursor.skipWhile (· == ' ')
    let c ← if c.here == '#' then c.skipWhile (!isLineEnd ·) else pure c
    match ← c.takeBreak with
    | some (_, c) =>
      skipGaps fuel { s with cursor := c, keyAllowed := s.keyAllowed || s.flow == 0 }
    | none => return { s with cursor := c }

/-- A byte-order mark in front of a text takes part in nothing. -/
def skipByteOrder (s : Stream) : Except Failure Stream := do
  if s.cursor.index == 0 && s.cursor.here == byteOrderMark then
    return { s with cursor := ← s.cursor.next }
  else return s

/-- The mark of a document's start or end in front. -/
def documentMark (s : Stream) : Except Failure (Option Token) := do
  let c := s.cursor
  if c.column != 0 then return none
  else if c.here == '-' then return if ← c.atMark ['-'] then some .documentStart else none
  else if c.here == '.' then return if ← c.atMark ['.'] then some .documentEnd else none
  else return none

/-- Read the next token, and the tokens that open or close blocks in front of it. -/
def step (s : Stream) : Except Failure Stream := do
  let s ← (← skipGaps (s.size + 1) (← s.skipByteOrder)).dropStale
  let s := s.closeBlocks s.cursor.column
  let c := s.cursor.here
  let inFlow := s.flow != 0
  if s.cursor.atEnd then s.finish
  else if c == '%' && s.cursor.column == 0 then s.takeDirective
  else
    match ← s.documentMark with
    | some t => s.takeDocumentMark t
    | none =>
      if c == '[' then s.openFlow .flowSequence
      else if c == '\x7b' then s.openFlow .flowMapping
      else if c == ']' then s.closeFlow .flowSequenceEnd
      else if c == '\x7d' then s.closeFlow .flowMappingEnd
      else if c == ',' then s.takeComma
      else if c == '*' then s.takeName .alias
      else if c == '&' then s.takeName .anchor
      else if c == '!' then s.takeTag
      else if c == '|' && !inFlow then s.takeBlock false
      else if c == '>' && !inFlow then s.takeBlock true
      else if c == apostrophe then s.takeQuoted false
      else if c == doubleQuote then s.takeQuoted true
      else
        let alone ←
          if c == '-' then standsAlone false s.cursor
          else if c == '?' || c == ':' then standsAlone inFlow s.cursor
          else pure false
        if alone then
          if c == '-' then s.takeEntry else if c == '?' then s.takeKey else s.takeValue
        else if ← startsPlain inFlow s.cursor then s.takePlain
        else throw unscannable

/-! ## On demand -/

/-- Must more be read before the next token is known? It must if none waits, or if the first that does may
    still turn out to start a key. -/
def needsMore (s : Stream) : Except Failure (Bool × Stream) :=
  if s.finished then .ok (false, s)
  else if s.waiting.isEmpty then .ok (true, s)
  else do
    let s ← s.dropStale
    return (s.firstCandidate? == some s.taken, s)

/-- Read until the next token is known. Each step but the last passes at least one character. -/
def fill : Nat → Stream → Except Failure Stream
  | 0, s => .ok s
  | fuel + 1, s => do
    match ← s.needsMore with
    | (true, s) => fill fuel (← s.step)
    | (false, s) => return s

/-- The next token. -/
def peek (s : Stream) : Except Failure (Token × Stream) := do
  let s ← fill (s.size + 2) s
  return (s.waiting.headD .streamEnd, s)

/-- Hand over the next token. -/
def pop (s : Stream) : Stream := { s with waiting := s.waiting.drop 1, taken := s.taken + 1 }

end Stream

end TopicReader.Yaml
