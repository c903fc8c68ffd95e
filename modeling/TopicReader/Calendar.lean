import TopicReader.Text.Digit

/-!
# `Calendar` — dates and times of day

## Contents
- **The types.** `Date`, `DateTime` (with an optional distance from universal time), and when one exists:
  `Date.valid`, `DateTime.valid`.
- **Standard text.** `Date.iso`, `DateTime.iso` with a chosen letter between date and time.
- **Reading.** `Date.ofIso?` and `DateTime.ofIso?` read that text back.
- **Order.** `Date.ordinal` and `DateTime.instant`, by which dates and times are compared.
-/

namespace TopicReader

open TopicReader.Text

/-- A day of the calendar. -/
structure Date where
  year : Nat
  month : Nat
  day : Nat
deriving DecidableEq, Repr, Inhabited

/-- A date and a time of day, with the distance from universal time in seconds if it is known. -/
structure DateTime where
  date : Date
  hour : Nat
  minute : Nat
  second : Nat
  micro : Nat
  zone : Option Int
deriving DecidableEq, Repr, Inhabited

namespace Date

/-- Leap years of the Gregorian calendar. -/
def isLeap (year : Nat) : Bool := year % 4 == 0 && (year % 100 != 0 || year % 400 == 0)

/-- The number of days of a month. -/
def daysIn (year month : Nat) : Nat :=
  if month = 2 then (if isLeap year then 29 else 28)
  else if month = 4 ∨ month = 6 ∨ month = 9 ∨ month = 11 then 30
  else 31

/-- Is there such a day? Years run from 1 to 9999. -/
def valid (d : Date) : Bool :=
  1 ≤ d.year && d.year ≤ 9999 && 1 ≤ d.month && d.month ≤ 12 && 1 ≤ d.day &&
    d.day ≤ daysIn d.year d.month

/-- Year, month and day with dashes. -/
def iso (d : Date) : String :=
  String.ofList (decimalPadded 4 d.year ++ '-' :: decimalPadded 2 d.month ++
    '-' :: decimalPadded 2 d.day)

/-- The number of days before the first of January of a year. -/
def daysBeforeYear (year : Nat) : Nat :=
  let y := year - 1
  y * 365 + y / 4 - y / 100 + y / 400

/-- The number of days before the first of a month, within its year. -/
def daysBeforeMonth (year month : Nat) : Nat :=
  (List.range (month - 1)).foldl (fun days m => days + daysIn year (m + 1)) 0

/-- The running number of a day. -/
def ordinal (d : Date) : Nat :=
  daysBeforeYear d.year + daysBeforeMonth d.year d.month + d.day

end Date

namespace DateTime

/-- Is there such a time? A zone is less than a day away from universal time. -/
def valid (t : DateTime) : Bool :=
  t.date.valid && t.hour < 24 && t.minute < 60 && t.second < 60 && t.micro < 1000000 &&
    (match t.zone with
     | none => true
     | some z => z.natAbs < 86400)

/-- A distance from universal time: sign, hours and minutes, and seconds only if there are any. -/
def zoneText (z : Int) : List Char :=
  let n := z.natAbs
  (if z < 0 then '-' else '+') :: decimalPadded 2 (n / 3600) ++ ':' :: decimalPadded 2 (n / 60 % 60) ++
    (if n % 60 = 0 then [] else ':' :: decimalPadded 2 (n % 60))

/-- The standard text, with `between` separating the date from the time. -/
def isoWith (between : Char) (t : DateTime) : String :=
  String.ofList (t.date.iso.toList ++ between :: decimalPadded 2 t.hour ++
    ':' :: decimalPadded 2 t.minute ++ ':' :: decimalPadded 2 t.second ++
    (if t.micro = 0 then [] else '.' :: decimalPadded 6 t.micro) ++
    (match t.zone with
     | none => []
     | some z => zoneText z))

/-- The standard text. -/
def iso (t : DateTime) : String := isoWith 'T' t

/-- Microseconds since the first day of the calendar, in universal time where the zone is known. -/
def instant (t : DateTime) : Int :=
  (((t.date.ordinal * 24 + t.hour : Nat) * 3600 + t.minute * 60 + t.second : Int) -
    t.zone.getD 0) * 1000000 + t.micro

end DateTime

/-! ## Reading -/

/-- The number that a run of ASCII digits of known length spells. -/
def takeNumber (width : Nat) (cs : List Char) : Option (Nat × List Char) :=
  let ds := cs.take width
  if ds.length = width ∧ ds.all isAsciiDigit then some (asciiNumber ds, cs.drop width) else none

/-- Take one expected character from the front. -/
def takeMark (mark : Char) : List Char → Option (List Char)
  | c :: rest => if c = mark then some rest else none
  | [] => none

/-- Take a date from the front. -/
def takeDate (cs : List Char) : Option (Date × List Char) := do
  let (year, cs) ← takeNumber 4 cs
  let cs ← takeMark '-' cs
  let (month, cs) ← takeNumber 2 cs
  let cs ← takeMark '-' cs
  let (day, cs) ← takeNumber 2 cs
  some (⟨year, month, day⟩, cs)

/-- Take a fraction of a second from the front, if there is one. -/
def takeMicro (cs : List Char) : Nat × List Char :=
  match cs with
  | '.' :: rest =>
    let ds := rest.takeWhile isAsciiDigit
    (asciiNumber ((ds ++ List.replicate 6 '0').take 6), rest.drop ds.length)
  | _ => (0, cs)

/-- Take a distance from universal time: the rest of the text. -/
def takeZone (cs : List Char) : Option (Option Int) :=
  match cs with
  | [] => some none
  | ['Z'] => some (some 0)
  | sign :: rest => do
    let (h, rest) ← takeNumber 2 rest
    let rest ← takeMark ':' rest
    let (m, rest) ← takeNumber 2 rest
    let s ← match rest with
      | [] => some 0
      | _ => do
        let rest ← takeMark ':' rest
        let (s, _) ← takeNumber 2 rest
        some s
    let total : Int := h * 3600 + m * 60 + s
    if sign = '-' then some (some (-total)) else if sign = '+' then some (some total) else none

/-- Read a date from its standard text. -/
def Date.ofIso? (s : String) : Option Date := do
  let (d, rest) ← takeDate s.toList
  if rest.isEmpty then some d else none

/-- Read a time from its standard text. -/
def DateTime.ofIso? (s : String) : Option DateTime := do
  let (d, rest) ← takeDate s.toList
  match rest with
  | [] => some ⟨d, 0, 0, 0, 0, none⟩
  | _ :: rest =>
    let (h, rest) ← takeNumber 2 rest
    let rest ← takeMark ':' rest
    let (m, rest) ← takeNumber 2 rest
    let (s, rest) ← match rest with
      | ':' :: rest => takeNumber 2 rest
      | _ => some (0, rest)
    let (u, rest) := takeMicro rest
    let zone ← takeZone rest
    some ⟨d, h, m, s, u, zone⟩

end TopicReader
