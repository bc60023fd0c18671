import MonitoringUpkeep.Poll
import MonitoringUpkeep.Text.LetterCase
import MonitoringUpkeep.Value.Access

/-!
# The tenant quota gate

The gate is a field of the cluster object. When it changes, another controller creates or removes
the tenant quota; the program writes the field and waits until the quota has followed and, after
enabling, until its workloads are ready.
-/

namespace MonitoringUpkeep

/-- Whether an object reports a condition of a type as true; the first one of the type counts. -/
def Value.reports (v : Value) (type : Value) : Except Failure Bool := do
  let status := (← v.member "status").orElse (.obj [])
  let conditions ← ((← status.member "conditions").orElse (.arr [])).items
  go conditions
where
  /-- Looks for the first condition of the type. -/
  go : List Value → Except Failure Bool
    | [] => return false
    | c :: rest => do
      if (← c.member "type") ≈ type then
        return (← c.member "status").display == "True"
      else go rest

namespace Workloads

/-- The number of pods that deployments ask for, if each has all of its own ready; absent counts
    stand for zero. -/
def expectedPods : List Value → Value → Except Failure (Option Value)
  | [], total => .ok (some total)
  | d :: rest, total => do
    let status := (← d.member "status").orElse (.obj [])
    let replicas := (← status.member "replicas").orElse (.int 0)
    let ready := (← status.member "readyReplicas").orElse (.int 0)
    if ready ≈ replicas then expectedPods rest (← total.plus replicas) else return none

end Workloads

/-- The gate of a cluster object, and how its changes are watched. -/
structure Gate where
  clusterName : Value
  /-- the namespace of the cluster object -/
  space : Value
  timeout : Value := .int 300
  interval : Value := .int 1
  patchTimeout : Value := .int 10
  patchInterval : Value := .ofRat (mkRat 1 10)
  /-- the number of deployments that belong to an enabled quota -/
  expectedDeployments : Value := .int 3

namespace Gate

def check (g : Gate) : Except Failure Gate := do
  if ← g.timeout.isAtMost (.int 0) then throw .timeoutNotPositive
  else if ← g.interval.isBelow (.int 0) then throw .intervalNegative
  else return g

def field : String := "enableManagedTenantQuota"

/-- The name of the tenant quota that follows the gate. -/
def quotaName (g : Gate) : String := "mtq-" ++ g.clusterName.display

def operations (enable : Value) : Value := .arr [.obj [
  ("op", "replace"), ("path", .str ("/spec/featureGates/" ++ field)), ("value", enable)]]

def workloadSelector : String := "app.kubernetes.io/component=multi-tenant"

def workerSelector : String := "node-role.kubernetes.io/worker"

def available : String := "Available"

/-- The statuses with which the cluster refuses a change; asking again cannot help. -/
def rejections : List Int := [400, 403, 422]

variable {ω : Type} (env : Environment ω) (g : Gate)

/-- Waits for a condition and measures how long it took. -/
def watch (measure : GateCondition) (p : Poll) (condition : Action ω Bool) : Action ω Unit := do
  let seconds ← p.await env condition
  Action.note (.measured measure seconds)

/-- Whether the cluster has at most one node that can run workloads. -/
def isSingleWorker : Action ω Bool := do
  return (← env.list .node .null workerSelector).length ≤ 1

def isEnabled : Action ω Bool := do
  let cluster ← env.get .hyperConverged g.clusterName g.space
  let spec ← Action.ofExcept (cluster.member "spec")
  let gates ← Action.ofExcept ((spec.orElse (.obj [])).member "featureGates")
  let gate ← Action.ofExcept ((gates.orElse (.obj [])).member field)
  return !gate.isBlank

/-- Tries to write the gate. A refusal that asking again cannot change is final. -/
def tryPatch (enable : Value) : Action ω Bool := do
  match ← Action.attempt
      (env.send (.patch .hyperConverged g.clusterName (operations enable) g.space)) with
  | .ok _ => return true
  | .error (.api status reason body text) =>
    if ← Action.ofExcept (Failure.statusAmong status rejections) then
      Action.fail (.gateRejected (body.orElse reason))
    else Action.fail (.api status reason body text)
  | .error f => Action.fail f

def patch (enable : Value) : Action ω Unit := do
  watch env .patch
    ⟨.str s!"{Failure.gateName}={Text.lower enable.display} patch", g.patchTimeout,
      g.patchInterval⟩
    (tryPatch env g enable)
  Action.log Level.info Poll.logger
    s!"Set the {Failure.gateName} feature gate to {enable.display}"

/-- Reads the quota; none if there is none. -/
def quota? : Action ω (Option Value) := do
  match ← Action.attempt (env.get .tenantQuota g.quotaName) with
  | .ok v => return some v
  | .error f => if f.isNotFound then return none else Action.fail f

def isAvailable : Action ω Bool := do
  match ← quota? env g with
  | none => return false
  | some v => Action.ofExcept (v.reports (.str available))

def isRemoved : Action ω Bool := do
  return (← quota? env g).isNone

/-- Whether the workloads of the quota are complete: as many deployments as expected, each with all
    of its pods ready, and as many pods as they ask for together. -/
def workloadsReady : Action ω Bool := do
  let deployments ← env.list .deployment g.space workloadSelector
  if ¬ Value.int deployments.length ≈ g.expectedDeployments then return false
  else
    match ← Action.ofExcept (Workloads.expectedPods deployments (.int 0)) with
    | none => return false
    | some expected =>
      let pods ← env.list .pod g.space workloadSelector
      return decide (Value.int pods.length ≈ expected)

def awaitAvailable : Action ω Unit :=
  watch env .available ⟨.str s!"MTQ {g.quotaName} to report {available}", g.timeout, g.interval⟩
    (isAvailable env g)

def awaitRemoved : Action ω Unit :=
  watch env .removed ⟨.str s!"MTQ {g.quotaName} to be removed", g.timeout, g.interval⟩
    (isRemoved env g)

/-- Waits until the workloads of the quota are complete. -/
def awaitWorkloads : Action ω Unit :=
  watch env .workloads
    ⟨.str s!"{g.expectedDeployments.display} ready multi-tenant deployments", g.timeout, g.interval⟩
    (workloadsReady env g)

/-- Changes the gate and waits until the quota has followed. With a single worker the gate cannot
    be enabled, and nothing is written. -/
def set (enable : Value) : Action ω Unit := do
  if enable.isBlank then
    patch env g enable
    awaitRemoved env g
  else if ← isSingleWorker env then Action.fail .singleWorker
  else
    patch env g enable
    awaitAvailable env g
    if ← Action.ofExcept ((Value.int 0).isBelow g.expectedDeployments) then awaitWorkloads env g

end Gate

end MonitoringUpkeep
