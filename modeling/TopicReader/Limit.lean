/-!
# `Limit` — the number of records after which a run stops

## Contents
- **The type.** `Limit`: a number of records, or none.
- **Counts.** `Limit.ofCount`: a count is a limit only if it is positive.
-/

namespace TopicReader

/-- The number of records after which to stop, if there is one. -/
abbrev Limit := Option Nat

namespace Limit

/-- The limit of a count: only a positive count is one. -/
def ofCount (count : Option Int) : Limit :=
  match count with
  | some n => if 0 < n then some n.toNat else none
  | none => none

end Limit

end TopicReader
