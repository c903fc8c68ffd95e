import TopicReader.Text.Blank
import TopicReader.Text.Digit
import TopicReader.Text.PrintableTable

/-!
# `Text.Quoted` — texts and bytes in quotes

## Contents
- **The choice of quote.** `quoteFor`: an apostrophe, unless the text has apostrophes and no double quotes.
- **Texts.** `quoteText`: printable characters as themselves, the rest as the shortest of `\xNN`, `\uNNNN`
  and `\UNNNNNNNN`.
- **Bytes.** `quoteBytes` / `quoteGrowableBytes`: marked with a `b`, printable ASCII as itself, the rest as
  `\xNN`.
-/

namespace TopicReader.Text

/-- Shown as itself inside quotes. -/
def isPrintable (c : Char) : Bool :=
  if c.toNat < 0x7f then 0x20 ≤ c.toNat else inRanges printableRanges c.toNat

/-- The apostrophe. -/
def apostrophe : Char := Char.ofNat 0x27

/-- The double quote. -/
def doubleQuote : Char := Char.ofNat 0x22

/-- The backslash. -/
def backslash : Char := Char.ofNat 0x5c

/-- The quote to put around a text. -/
def quoteFor (cs : List Char) : Char :=
  if cs.contains apostrophe && !cs.contains doubleQuote then doubleQuote else apostrophe

/-- The escapes that have a letter of their own. -/
def escapeLetter (quote c : Char) : Option Char :=
  if c = backslash then some backslash
  else if c = quote then some quote
  else if c = '\n' then some 'n'
  else if c = '\r' then some 'r'
  else if c = '\t' then some 't'
  else none

/-- One character inside quotes. -/
def escapeChar (quote c : Char) : List Char :=
  match escapeLetter quote c with
  | some letter => [backslash, letter]
  | none =>
    if isPrintable c then [c]
    else if c.toNat < 0x100 then backslash :: 'x' :: hexPadded 2 c.toNat
    else if c.toNat < 0x10000 then backslash :: 'u' :: hexPadded 4 c.toNat
    else backslash :: 'U' :: hexPadded 8 c.toNat

/-- A text in quotes. -/
def quoteText (s : String) : String :=
  let cs := s.toList
  let quote := quoteFor cs
  String.ofList (quote :: cs.flatMap (escapeChar quote) ++ [quote])

/-- One byte inside quotes. -/
def escapeByte (quote : Char) (b : UInt8) : List Char :=
  let c := Char.ofNat b.toNat
  match escapeLetter quote c with
  | some letter => [backslash, letter]
  | none =>
    if 0x20 ≤ b.toNat ∧ b.toNat < 0x7f then [c] else backslash :: 'x' :: hexPadded 2 b.toNat

/-- The quote to put around bytes. -/
def quoteForBytes (bytes : List UInt8) : Char := quoteFor (bytes.map fun b => Char.ofNat b.toNat)

/-- Bytes between quotes, marked with a `b`. A backslash precedes each `escaped` inside. -/
def enquoteBytes (quote escaped : Char) (bytes : List UInt8) : String :=
  String.ofList ('b' :: quote :: bytes.flatMap (escapeByte escaped) ++ [quote])

/-- Fixed bytes in quotes: only the surrounding quote is escaped inside. -/
def quoteBytes (bytes : List UInt8) : String :=
  enquoteBytes (quoteForBytes bytes) (quoteForBytes bytes) bytes

/-- Growable bytes in quotes: an apostrophe is escaped inside, whichever quote surrounds them. -/
def quoteGrowableBytes (bytes : List UInt8) : String :=
  enquoteBytes (quoteForBytes bytes) apostrophe bytes

end TopicReader.Text
