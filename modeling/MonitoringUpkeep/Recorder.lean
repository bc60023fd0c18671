import MonitoringUpkeep.Action.Environment
import MonitoringUpkeep.Owner

/-!
# The event recorder

Events are reported on the owner. A report is a service to the reader of the cluster's events and
nothing more: when the cluster refuses one, the refusal is logged and the work goes on.
-/

namespace MonitoringUpkeep

/-- Where events are reported, and in whose name. -/
structure Recorder where
  owner : Owner
  component : Value := "hyperconverged-cluster-operator"

namespace Recorder

def logger : String := "monitoring.src.events"

/-- Fields with those that are null left out. -/
def given (fs : Fields) : Value :=
  .obj (fs.filter fun f => match f.2 with
    | .null => false
    | _ => true)

/-- The body of an event, times apart. -/
def body (r : Recorder) (e : Event) : Value := given [
  ("count", .int 1),
  ("involvedObject", given [
    ("apiVersion", r.owner.apiVersion), ("kind", r.owner.kind), ("name", r.owner.name),
    ("namespace", r.owner.space), ("uid", r.owner.uid)]),
  ("message", e.message),
  ("metadata", given [
    ("generateName", .str (r.owner.name.display ++ "-")), ("namespace", r.owner.space)]),
  ("reason", e.reason),
  ("reportingComponent", r.component),
  ("source", given [("component", r.component)]),
  ("type", e.type)]

/-- The log message about an event that the cluster refused. -/
def refusal (r : Recorder) (e : Event) (reason : Value) : String :=
  s!"Failed to record {e.reason.display} event {e.message.literal} for "
    ++ s!"{r.owner.space.display}/{r.owner.name.display}: {reason.display}"

variable {ω : Type}

/-- Delivers the body of an event to the cluster. -/
def deliver (env : Environment ω) (r : Recorder) (e : Event) : Action ω Unit := fun w =>
  match env.deliver r.owner.space (r.body e) w with
  | (.ok (), w) => ⟨.done (), [.event e r.owner.space (r.body e)], w⟩
  | (.error f, w) => ⟨.failed f, [.event e r.owner.space (r.body e)], w⟩

/-- Reports an event. A refusal of the cluster is logged; any other failure stays one. -/
def emit (env : Environment ω) (r : Recorder) (e : Event) : Action ω Unit := do
  match ← Action.attempt (r.deliver env e) with
  | .ok () => return ()
  | .error (.api _ reason ..) => Action.log Level.warning logger (r.refusal e reason)
  | .error f => Action.fail f

end Recorder

end MonitoringUpkeep
