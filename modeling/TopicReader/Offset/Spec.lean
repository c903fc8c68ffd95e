import TopicReader.Failure.Basic

/-!
# `Offset.Spec` — offsets as users write them

## Contents
- **Reading.** `Offset.resolve`: the offset of a spec; what names none is refused with the spec as written.
-/

namespace TopicReader.Offset

/-- The offset that a spec names; a refusal holds the spec as it was written. -/
def resolve (spec : String) : Except Failure Offset :=
  match ofSpec? spec with
  | some d => .ok d
  | none => .error (.classified (.offsetSpec spec))

end TopicReader.Offset
