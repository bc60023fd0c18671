import MonitoringUpkeep.Rehearsal.World
import MonitoringUpkeep.Startup

/-!
# The log of a rehearsed run

The program logs each signal when it gets it, which is during the step in which the script sends
it. The journal of a run is its log with these records in their places.
-/

namespace MonitoringUpkeep.Rehearsal

/-- Whether an entry is a step: a request, an event or a wait. -/
def isStep : Entry → Bool
  | .call .. | .event .. | .wait _ => true
  | _ => false

/-- The records of the signals that are sent during a step. -/
def signalRecords (signals : List (Nat × Int)) (step : Nat) : List LogRecord :=
  (signals.filter (·.1 = step)).map fun s => Startup.signalRecord s.2

/-- The log of a run, with the records of signals; `step` is the number of steps before it. -/
def journal (signals : List (Nat × Int)) : Nat → Trace → List LogRecord
  | _, [] => []
  | step, .log record :: rest => record :: journal signals step rest
  | step, entry :: rest =>
    if isStep entry then signalRecords signals (step + 1) ++ journal signals (step + 1) rest
    else journal signals step rest

end MonitoringUpkeep.Rehearsal
