import MonitoringUpkeep.Action.Environment
import MonitoringUpkeep.Value.Amount

/-!
# Polling

A condition is looked at again and again until it holds, a deadline has passed, or the program is
told to stop. A failure to look that may go away counts as "not yet". After the last wait the
condition is looked at once more before the deadline counts.
-/

namespace MonitoringUpkeep

/-- What is waited for, and for how long. -/
structure Poll where
  description : Value
  timeout : Value
  interval : Value

namespace Poll

variable {ω : Type}

def logger : String := "monitoring.src.feature_gate"

/-- How long to wait before the next look: the interval, cut off at the deadline. -/
def pause (interval : Value) (remaining : Binary64) : Except Failure Value := do
  return if ← Value.isBelow (.real remaining) interval then .real remaining else interval

/-- What happens after a look that found the condition not to hold: the end at the deadline, or a
    wait and `again`. -/
def waitOn (env : Environment ω) (p : Poll) (deadline : Binary64) (last : Option Failure)
    (again : Action ω Binary64) : Action ω Binary64 := do
  let now ← env.clock
  if deadline.le now then Action.fail (.waitTimeout p.description p.timeout last)
  else
    let seconds ← Action.ofExcept (pause p.interval (deadline.sub env.round now))
    if ← env.sleep seconds then Action.fail (.waitCancelled p.description) else again

/-- Looks at the condition for a number of rounds; `last` is the latest failure to look. -/
def rounds (env : Environment ω) (p : Poll) (condition : Action ω Bool)
    (started deadline : Binary64) : Nat → Option Failure → Action ω Binary64
  | 0, _ => Action.unfinished
  | n + 1, last => do
    if ← env.isStopped then Action.fail (.waitCancelled p.description)
    else
      match ← Action.attempt condition with
      | .ok true => return (← env.clock).sub env.round started
      | .ok false => waitOn env p deadline last (rounds env p condition started deadline n last)
      | .error f =>
        if f.isRetryable then
          Action.log Level.debug logger
            s!"Retrying {p.description.display} after error: {f.message}"
          waitOn env p deadline (some f)
            (rounds env p condition started deadline n (some f))
        else Action.fail f

/-- Waits until a condition holds and ends with the seconds that passed. -/
def await (env : Environment ω) (p : Poll) (condition : Action ω Bool) : Action ω Binary64 := do
  let started ← env.clock
  let timeout ← Action.ofExcept (p.timeout.toReal env.round)
  rounds env p condition started (started.add env.round timeout) env.rounds none

end Poll

end MonitoringUpkeep
