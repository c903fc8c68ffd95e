import TopicReader.Calendar
import TopicReader.Failure.Basic

/-!
# `Yaml.Stamp` — dates and times as documents write them

## Contents
- **The parts.** `Stamp`: a date, and a time of day if one is given.
- **Reading.** `Stamp.read?`: months, days and hours may have one digit.
- **The value.** `Stamp.value`: a date or a time, if the calendar has it.
-/

namespace TopicReader.Yaml

open TopicReader.Text

/-- The time of day of a stamp, with its distance from universal time in seconds. -/
structure Clock where
  hour : Nat
  minute : Nat
  second : Nat
  micro : Nat
  zone : Option Int
deriving DecidableEq, Repr

/-- The parts of a date, and of a time if there is one. -/
structure Stamp where
  date : Date
  clock : Option Clock
deriving DecidableEq, Repr

namespace Stamp

/-- One or two digits. -/
def takeShort (cs : List Char) : Option (Nat × List Char) :=
  let ds := (cs.take 2).takeWhile isAsciiDigit
  if ds.isEmpty then none else some (asciiNumber ds, cs.drop ds.length)

/-- The fraction of a second after its point. -/
def takeFraction (cs : List Char) : Nat × List Char :=
  match cs with
  | '.' :: rest =>
    let ds := rest.takeWhile isAsciiDigit
    (asciiNumber ((ds ++ List.replicate 6 '0').take 6), rest.drop ds.length)
  | _ => (0, cs)

/-- A blank between the parts of a stamp. -/
def isSeparator (c : Char) : Bool := c == ' ' || c == '\t'

/-- The distance from universal time, at the end of a stamp. -/
def readZone (cs : List Char) : Option (Option Int) :=
  if cs.isEmpty then some none
  else
    match cs.dropWhile isSeparator with
    | [] => none
    | ['Z'] => some (some 0)
    | sign :: rest => do
      if sign != '-' && sign != '+' then none
      let (hours, rest) ← takeShort rest
      let minutes ← match rest with
        | [] => some 0
        | _ => do
          let rest ← takeMark ':' rest
          let (minutes, rest) ← takeNumber 2 rest
          if rest.isEmpty then some minutes else none
      let seconds : Int := hours * 3600 + minutes * 60
      some (some (if sign = '-' then -seconds else seconds))

/-- The time of day: a letter T or blanks, and then the clock. -/
def readClock (cs : List Char) : Option Clock := do
  let rest ← match cs with
    | c :: rest =>
      if c = 'T' ∨ c = 't' then some rest
      else if isSeparator c then some (rest.dropWhile isSeparator) else none
    | [] => none
  let (hour, rest) ← takeShort rest
  let rest ← takeMark ':' rest
  let (minute, rest) ← takeNumber 2 rest
  let rest ← takeMark ':' rest
  let (second, rest) ← takeNumber 2 rest
  let (micro, rest) := takeFraction rest
  let zone ← readZone rest
  some ⟨hour, minute, second, micro, zone⟩

/-- Read a stamp. -/
def read? (cs : List Char) : Option Stamp := do
  let (year, rest) ← takeNumber 4 cs
  let rest ← takeMark '-' rest
  let (month, rest) ← takeShort rest
  let rest ← takeMark '-' rest
  let (day, rest) ← takeShort rest
  if rest.isEmpty then some ⟨⟨year, month, day⟩, none⟩
  else do
    let clock ← readClock rest
    some ⟨⟨year, month, day⟩, some clock⟩

/-- Is this how a plain stamp is written? A date alone has all its ten characters. -/
def isPlainForm (cs : List Char) : Bool :=
  match read? cs with
  | some s => s.clock.isSome || cs.length == 10
  | none => false

/-- The value of a stamp, if the calendar has it. -/
def value (s : Stamp) : Except Failure Value :=
  let refused : Failure := .mishap .wrongValue "no such date or time"
  match s.clock with
  | none => if s.date.valid then .ok (.date s.date) else .error refused
  | some c =>
    let t : DateTime := ⟨s.date, c.hour, c.minute, c.second, c.micro, c.zone⟩
    if t.valid then .ok (.time t) else .error refused

end Stamp

end TopicReader.Yaml
