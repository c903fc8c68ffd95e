import TopicReader.Client

/-!
# `Client.Script` — a client that follows a script

## Contents
- **The script.** `Script`: what each call comes to, and a list of replies to polls.
- **After the script.** With `idle`, every further poll brings that many records of one partition; otherwise
  it fails.
- **The client.** `Script.client`.
-/

namespace TopicReader

/-- What a scripted client says. -/
structure Script where
  startFailure : Option Failure
  stopFailure : Option Failure
  fetchFailure : Option Failure
  openFailures : List (Int × Failure)
  closeFailures : List (Int × Failure)
  metadata : TopicMetadata
  batches : List (Reply (List Item))
  idle : Option Nat
  served : Nat

namespace Script

/-- Nothing, or a failure. -/
def outcome {α : Type} (a : α) (f : Option Failure) : Reply α :=
  .of (match f with
    | some f => .error f
    | none => .ok a)

/-- The failure of a partition. -/
def failureAt (fs : List (Int × Failure)) (p : Int) : Option Failure :=
  (fs.find? fun f => f.1 == p).map (·.2)

/-- A record that comes after the script. -/
def idleRecord (n : Nat) : Item :=
  .record ⟨"events", 0, n, none, some (Text.Utf8.encode ("p0-o" ++ intText n))⟩

/-- The script has nothing more to say. -/
def exhausted : Failure := .foreign (.plain "RuntimeError" "script exhausted")

/-- The reply to the next poll. -/
def next (s : Script) : Reply (List Item) × Script :=
  match s.batches with
  | b :: rest => (b, { s with batches := rest })
  | [] =>
    match s.idle with
    | some n =>
      (.of (.ok ((List.range n).map fun i => idleRecord (s.served + i))), { s with served := s.served + n })
    | none => (.of (.error exhausted), s)

/-- The client that follows a script. -/
def client : Client Script where
  start s := (outcome () s.startFailure, s)
  stop s := (outcome () s.stopFailure, s)
  fetch _ _ s := (outcome s.metadata s.fetchFailure, s)
  openStream _ p _ s := (outcome () (failureAt s.openFailures p), s)
  closeStream _ p s := (outcome () (failureAt s.closeFailures p), s)
  poll _ s := s.next

end Script

end TopicReader
