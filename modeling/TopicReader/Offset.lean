import TopicReader.Number.Whole

/-!
# `Offset` — where a partition stream starts reading

## Contents
- **The type.** `Offset`: the first record, the end, the group's committed position, an absolute offset,
  or a number of records before the end.
- **Specs.** `Offset.ofSpec?` reads one from text, `Offset.text` names it; `Offset.number?` is the number in it.
-/

namespace TopicReader

open TopicReader.Text

/-- Where a partition stream starts reading. -/
inductive Offset where
  | earliest
  | latest
  | stored
  | absolute (n : Nat)
  | tail (count : Nat)
deriving DecidableEq, Repr, Inhabited

namespace Offset

/-- The words for an offset that is not a number. -/
def ofWord? (word : String) : Option Offset :=
  if word = "beginning" then some .earliest
  else if word = "end" then some .latest
  else if word = "stored" then some .stored
  else none

/-- A number from zero on is an absolute offset, a negative one counts back from the end. -/
def ofInt (n : Int) : Offset := if n < 0 then .tail n.natAbs else .absolute n.natAbs

/-- The offset that a spec names, blanks around it aside. -/
def ofSpec? (spec : String) : Option Offset :=
  let token := trimText spec
  match ofWord? token with
  | some d => some d
  | none =>
    match Whole.read token with
    | .ok n => some (ofInt n)
    | .error _ => none

/-- The number in an offset, if it has one. -/
def number? : Offset → Option Nat
  | .absolute n => some n
  | .tail count => some count
  | _ => none

/-- The name of an offset in messages and logs. -/
def text : Offset → String
  | .earliest => "beginning"
  | .latest => "end"
  | .stored => "stored"
  | .absolute n => n.repr
  | .tail count => "tail-" ++ count.repr

/-- The form of an offset inside a quoted value. -/
def quoted : Offset → String
  | .earliest => "Earliest()"
  | .latest => "Latest()"
  | .stored => "Stored()"
  | .absolute n => "Absolute(offset=" ++ n.repr ++ ")"
  | .tail count => "TailRelative(count=" ++ count.repr ++ ")"

end Offset

end TopicReader
