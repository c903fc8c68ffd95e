import TopicReader.Journal.Basic

/-!
# `Signals` — stopping a run from outside

## Contents
- **Signals.** `Signal`: the signals that stop a run.
- **The host.** `Signals`: whether the host can call a handler from its event loop, the handlers that were
  registered so far, and how often the run was asked to stop.
- **Steps.** `Signals.setup`, `Signals.remove`, and `Signals.fire` for a handler.
-/

namespace TopicReader

/-- A signal that stops a run. -/
inductive Signal where
  | terminate
  | interrupt
deriving DecidableEq, Repr, Inhabited

namespace Signal

/-- The signals, in order of registration. -/
def all : List Signal := [terminate, interrupt]

/-- The name of a signal. -/
def name : Signal → String
  | terminate => "SIGTERM"
  | interrupt => "SIGINT"

/-- The number of a signal. -/
def number : Signal → Nat
  | terminate => 15
  | interrupt => 2

end Signal

/-- What is asked of the host. -/
inductive SignalRequest where
  | add (s : Signal)
  | remove (s : Signal)
  | watch (s : Signal)
  | reset (s : Signal)
deriving DecidableEq, Repr, Inhabited

/-- The state of signal handling. -/
structure Signals where
  supported : Bool
  handlers : List Signal
  fired : Nat
  journal : Journal

namespace Signals

/-- Nothing is registered yet. -/
def none (supported : Bool) : Signals := ⟨supported, [], 0, .empty⟩

/-- Register the handlers. -/
def setup (s : Signals) : List SignalRequest × Signals :=
  (Signal.all.map (if s.supported then .add else .watch), { s with handlers := s.handlers ++ Signal.all })

/-- Bring back what was there before any handler. -/
def remove (s : Signals) : List SignalRequest := Signal.all.map (if s.supported then .remove else .reset)

/-- The origin of the log record. -/
def origin : String := "kfc.consumer.signals"

/-- What the log says of a signal that the event loop does not handle. -/
def received (g : Signal) : String :=
  "Received signal " ++ g.number.repr ++ ", initiating shutdown"

/-- Call a handler. -/
def fire (s : Signals) (handler : Nat) : Signals :=
  match s.handlers[handler]? with
  | some g =>
    let journal :=
      if s.supported then s.journal else s.journal.write Level.info origin (received g) [] .absent
    { s with fired := s.fired + 1, journal := journal }
  | Option.none => s

end Signals

end TopicReader
