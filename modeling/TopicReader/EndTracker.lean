import TopicReader.Journal.Basic

/-!
# `EndTracker` — which partitions have reached their end

## Contents
- **The tracker.** `EndTracker`: the partitions in scope, those at their end, and the number of ends at which
  the run is over.
- **Observing.** `EndTracker.observe`: one end of a partition and what became of it; `EndNotice.write` tells
  the log.

Partitions and offsets are the protocol's, of 32 and 64 bits, so that they can always be written out.
-/

namespace TopicReader

/-- The partitions that have reached their end. -/
structure EndTracker where
  scope : List Int
  single : Bool
  active : Bool
  atEnd : List Int
deriving DecidableEq, Repr, Inhabited

/-- What became of an end: it was none of the run's, it was noted, it was known, or it counted, and with it
    the run may be over. -/
inductive EndNotice where
  | outside
  | noted
  | known
  | counted (count threshold : Nat) (final : Bool)
deriving DecidableEq, Repr, Inhabited

namespace EndTracker

/-- A tracker for partitions; only an active one stops the run. -/
def ofPartitions (partitions : List Int) (single active : Bool) : EndTracker :=
  ⟨partitions.eraseDups, single, active, []⟩

/-- The number of ends at which the run is over. -/
def threshold (t : EndTracker) : Nat := if t.single then 1 else t.scope.length

/-- The number of partitions at their end. -/
def count (t : EndTracker) : Nat := t.atEnd.length

/-- Is a partition at its end? -/
def isAtEnd (t : EndTracker) (partition : Int) : Bool := t.atEnd.contains partition

/-- Take note of the end of a partition. -/
def observe (t : EndTracker) (partition : Int) : EndNotice × EndTracker :=
  if !t.scope.contains partition then (.outside, t)
  else if !t.active then (.noted, t)
  else if t.isAtEnd partition then (.known, t)
  else
    let t := { t with atEnd := partition :: t.atEnd }
    (.counted t.count t.threshold (t.threshold ≤ t.count), t)

end EndTracker

namespace EndNotice

/-- Is the run over with this notice? -/
def isOver : EndNotice → Bool
  | .counted _ _ final => final
  | _ => false

/-- The origin of the log records. -/
def origin : String := "kfc.consumer.eof"

/-- A partition of a topic in a log record. -/
def place (topic : String) (partition : Int) : String := topic ++ " [" ++ intText partition ++ "]"

/-- What the log says of reaching an end. -/
def reached (topic : String) (partition offset : Int) : String :=
  "Reached end of topic " ++ place topic partition ++ " at offset " ++ intText offset

/-- Write what became of the end of a partition into the log. -/
def write (j : Journal) (topic : String) (partition offset : Int) : EndNotice → Journal
  | .outside =>
    j.write Level.warning origin
      ("Ignoring end of partition " ++ place topic partition ++ ": partition not consumed")
      [("topic", .text topic), ("partition", .int partition)] .absent
  | .noted => j.write Level.debug origin (reached topic partition offset) [] .absent
  | .known => j
  | .counted count threshold final =>
    j.write Level.info origin
      (reached topic partition offset ++ (if final then ": exiting" else ""))
      [("topic", .text topic), ("partition", .int partition), ("offset", .int offset),
       ("eof_count", .int count), ("threshold", .int threshold)] .absent

end EndNotice

end TopicReader
