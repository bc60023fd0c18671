import MonitoringUpkeep.Configuration
import MonitoringUpkeep.Gate
import MonitoringUpkeep.Projection

/-!
# The operator

The operator makes one pass after another: it keeps the managed objects in order and writes the
references to them into the status of the cluster object. After a success it rests for a fixed
time, after failures for a random time around a bound that doubles up to thirty seconds. The gate,
where the configuration asks for it, is changed once, by a thread of its own that is started before the
first pass. Here that thread has its say first: all that it does stands before the first pass, as one
block. The passes share nothing with it but the cluster and the stop token, whose answers may be any.
-/

namespace MonitoringUpkeep

/-- The operator: its configuration, where it reports events, and the gate if it watches one. -/
structure Operator where
  configuration : Configuration
  recorder : Recorder
  gate : Option Gate

namespace Operator

def logger : String := "monitoring.src.runner"

/-- The gate that a configuration asks for; `round` is the rounding of times. -/
def gateOf (round : Rat → Binary64) (c : Configuration) : Gate where
  clusterName := c.clusterName
  space := c.space
  timeout := .int c.gateTimeoutSeconds
  interval := .real (round c.gatePollSeconds)

/-- The operator of a configuration, owned by a given object. -/
def build (round : Rat → Binary64) (c : Configuration) (owner : Owner) : Except Failure Operator := do
  let gate ← (gateOf round c).check
  return { configuration := c, recorder := { owner }, gate := some gate }

/-- The managed objects of the operator. -/
def resources (o : Operator) : List Resource := o.configuration.settings.resources

variable {ω : Type} (env : Environment ω)

/-- Reads the deployment that owns the managed objects. -/
def resolveOwner (c : Configuration) : Action ω Owner := do
  Action.ofExcept (Owner.ofObject (← env.get .deployment c.deployment c.space))

variable (o : Operator)

/-- Reads the cluster object; none if there is none. -/
def cluster? : Action ω (Option Value) := do
  let c := o.configuration
  match ← Action.attempt (env.get .hyperConverged c.clusterName c.space) with
  | .ok .null => return none
  | .ok v => return some v
  | .error f => if f.isNotFound then return none else Action.fail f

/-- Writes the status of the cluster object back if its references changed. -/
def project (v : Value) : Action ω StatusRequest := do
  let request ← Action.ofExcept (StatusRequest.projected o.resources ⟨v, false⟩)
  if request.dirty then
    Projection.announce o.resources request.object
    let _ ← env.send (.updateStatus .hyperConverged request.object)
    Action.count .statusUpdates
  return request

/-- Makes one pass. Without a cluster object there is no status to write. -/
def pass : Action ω (Option StatusRequest) := do
  Pass.run env o.recorder o.resources
  match ← cluster? env o with
  | none =>
    let c := o.configuration
    Action.log Level.info logger
      s!"HyperConverged {c.space}/{c.clusterName} not found; skipping related objects status"
    return none
  | some v => return some (← project env o v)

/-- Changes the gate if it is not as wanted. -/
def applyGate : Action ω Unit := do
  match o.gate, o.configuration.tenantQuota with
  | some gate, some wanted =>
    if (← gate.isEnabled env) = wanted then
      Action.log Level.info logger
        s!"Managed tenant quota feature gate already {(Value.bool wanted).display}"
    else gate.set env (.bool wanted)
  | _, _ => return ()

/-- Changes the gate; a failure is logged and goes no further. -/
def applyGateLogged : Action ω Unit := do
  match ← Action.attempt (applyGate env o) with
  | .ok () => return ()
  | .error f =>
    Action.log Level.error logger "Failed to apply the managed tenant quota feature gate" (some f)

/-- Starts the change of the gate, if the configuration says how it is wanted, and lets it go: nothing
    waits for its end. Ends with whether there was anything to start. -/
def startGate : Action ω Bool := do
  if o.gate.isNone || o.configuration.tenantQuota.isNone then return false
  else
    Action.detach (applyGateLogged env o)
    return true

/-- Sets or clears the readiness flag. -/
def setReady (flag : Bool) : Action ω Unit := Action.note (.ready flag)

/-- The statuses with which the cluster denies access; going on cannot help. -/
def denials : List Int := [401, 403]

/-- The bound after a failure, in seconds: twice the one before, and at most thirty. -/
def nextBound (bound : Nat) : Nat := min (bound * 2) 30

/-- The rest after a failure: between half the bound and one and a half of it. -/
def backoff (round : Rat → Binary64) (bound : Nat) (chance : Binary64) : Binary64 :=
  ((Binary64.finite (mkRat 1 2)).add round chance).scale round bound

/-- Reports a failed pass. Ends with whether the cluster denied access. -/
def reportFailure (f : Failure) : Action ω Bool := do
  Action.count (.passes false)
  match f with
  | .api status reason .. =>
    if ← Action.ofExcept (Failure.statusAmong status denials) then
      Action.log Level.error logger
        (s!"Kubernetes API access denied during reconcile (status={status.display}). "
          ++ "Check operator RBAC and service account permissions.")
      return true
    else
      Action.log Level.error logger "Monitoring reconcile pass failed" (some f)
      o.recorder.emit env (Event.passFailed reason.display)
      return false
  | f =>
    Action.log Level.error logger "Unexpected error during monitoring reconcile pass" (some f)
    o.recorder.emit env (Event.passFailed f.message)
    return false

/-- Notes a successful pass. -/
def reportSuccess : Action ω Unit := do
  Action.count (.passes true)
  Action.note .succeeded
  setReady true

/-- Makes passes until the program is to stop or the cluster denies access; `bound` is the bound of
    the next rest after a failure. -/
def passes : Nat → Nat → Action ω Unit
  | 0, _ => Action.unfinished
  | n + 1, bound => do
    if ← env.isStopped then setReady false
    else
      match ← Action.attempt (pass env o) with
      | .ok _ =>
        reportSuccess
        let _ ← env.sleep (.int o.configuration.resyncSeconds)
        passes n 1
      | .error f =>
        if ← reportFailure env o f then setReady false
        else
          let chance ← Action.ofExcept ((← env.random).toReal env.round)
          let _ ← env.sleep (.real (backoff env.round bound chance))
          passes n (nextBound bound)

/-- Runs the operator until it is told to stop. What the change of the gate does comes in one block
    before the passes; it does not keep them from starting, even if it does not end. -/
def run : Action ω Unit := do
  let _ ← startGate env o
  passes env o env.rounds 1

end Operator

end MonitoringUpkeep
