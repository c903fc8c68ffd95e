import TopicReader.Number.DoubleText
import TopicReader.Value.Convert

/-!
# `Summary` — the line at the end of a run, and the name of a run

## Contents
- **Rate.** `Summary.rate`: records per second, zero where no time passed.
- **The line.** `Summary.text`, and `Summary.ofRun` for a run that counted its records.
- **Run names.** `runName`: the moment and two random bytes.
-/

namespace TopicReader

open TopicReader.Text

namespace Summary

/-- An integer that no binary64 number comes near to. -/
def tooLarge : Failure := .mishap .outOfRange "int too large to convert to float"

/-- A finite number, where an integer has one. -/
def finiteOf (n : Int) : Except Failure Double :=
  match Double.ofInt n with
  | .infinite _ => .error tooLarge
  | x => .ok x

/-- Records per second; without any time passed it is zero. -/
def rate (consumed : Int) (seconds : Int ⊕ Double) : Except Failure Double :=
  match seconds with
  | .inl n => if 0 < n then Value.quotient consumed n.toNat else .ok (Double.zero false)
  | .inr x =>
    if Double.lt (Double.zero false) x then (finiteOf consumed).map fun c => c.div x
    else .ok (Double.zero false)

/-- Seconds with one decimal place. -/
def secondsText (seconds : Int ⊕ Double) : Except Failure String :=
  match seconds with
  | .inl n => (finiteOf n).map Double.fixedOne
  | .inr x => .ok x.fixedOne

/-- The line at the end of a run, from a rate and a time that are known. -/
def line (consumed : Int) (seconds rate : String) (reason : Option String) : String :=
  let noun := if consumed = 1 then "message" else "messages"
  let start := "Consumed " ++ intText consumed ++ " " ++ noun ++ " in " ++ seconds ++ "s (" ++ rate ++
    " msg/s)"
  match reason with
  | none => start
  | some why => if why = "" then start else start ++ ", stopped: " ++ why

/-- The line at the end of a run, if its numbers are in range. -/
def text (consumed : Int) (seconds : Int ⊕ Double) (reason : Option String) : Except Failure String := do
  let r ← rate consumed seconds
  return line consumed (← secondsText seconds) r.fixedOne reason

/-- The rate of a number of records over a time, which is zero where no time passed. -/
def rateOf (consumed : Nat) (seconds : Double) : Double :=
  if Double.lt (Double.zero false) seconds then (Double.ofInt consumed).div seconds
  else Double.zero false

/-- The line at the end of a run that counted its records. -/
def ofRun (consumed : Nat) (seconds : Double) (reason : Option String) : String :=
  line consumed seconds.fixedOne (rateOf consumed seconds).fixedOne reason

end Summary

/-- The name of a run: the moment it started, and random bytes. -/
def runName (now : DateTime) (random : List UInt8) : String :=
  String.ofList ("r-".toList ++ decimalPadded 4 now.date.year ++ decimalPadded 2 now.date.month ++
    decimalPadded 2 now.date.day ++ '-' :: decimalPadded 2 now.hour ++ decimalPadded 2 now.minute ++
    decimalPadded 2 now.second ++ '-' :: random.flatMap fun b => hexPadded 2 b.toNat)

end TopicReader
