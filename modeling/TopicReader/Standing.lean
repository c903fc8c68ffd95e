/-!
# `Standing` — is the run going on?

## Contents
- **The type.** `Standing`: a run is going on, or it was stopped for a reason.
- **Stopping.** `Standing.stop`: a run is stopped once, and the first reason stays.
-/

namespace TopicReader

/-- Is a run going on? If not, the reason why it was stopped. -/
inductive Standing where
  | running
  | stopped (reason : String)
deriving DecidableEq, Repr, Inhabited

namespace Standing

/-- Is it going on? -/
def isRunning : Standing → Bool
  | running => true
  | stopped _ => false

/-- Why it was stopped. -/
def reason? : Standing → Option String
  | running => none
  | stopped why => some why

/-- Stop for a reason; the first reason stays. -/
def stop (s : Standing) (reason : String) : Standing :=
  match s with
  | running => stopped reason
  | s => s

end Standing

end TopicReader
