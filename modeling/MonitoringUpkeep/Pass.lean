import MonitoringUpkeep.Drift
import MonitoringUpkeep.Recorder

/-!
# A pass over the managed objects

A pass goes through the managed objects in their order. A missing object is created, a drifted one
is repaired, and one that is as desired is left alone. The first failure ends the pass; what was
done before stays done.
-/

namespace MonitoringUpkeep

namespace Pass

variable {ω : Type}

def logger : String := "monitoring.src.reconciler"

/-- Where a managed object is found: its kind, namespace and name. -/
def place (r : Resource) : String := s!"{r.kind.kind.name} {r.space.display}/{r.name.display}"

/-- Creates a missing object. -/
def create (env : Environment ω) (recorder : Recorder) (r : Resource) : Action ω Unit := do
  let _ ← env.send (.create r.kind.kind (r.desired recorder.owner))
  Action.count (.writes r.kind true)
  Action.log Level.info logger ("Created " ++ place r)
  recorder.emit env (Event.created r.kind.kind.name r.name)

/-- Repairs an object if it has drifted. -/
def repair (env : Environment ω) (recorder : Recorder) (r : Resource) (observed : Value) :
    Action ω Unit := do
  let desired := r.desired recorder.owner
  if ← Action.ofExcept (r.differs observed desired) then
    let healed ← Action.ofExcept (r.heal observed desired)
    let _ ← env.send (.update r.kind.kind healed)
    Action.count (.writes r.kind false)
    Action.log Level.info logger ("Reverted drift on " ++ place r)
    recorder.emit env (Event.updated r.kind.kind.name r.name)
  else
    Action.log Level.debug logger (place r ++ " is up to date")

/-- Looks at one object and creates or repairs it as needed. -/
def keep (env : Environment ω) (recorder : Recorder) (r : Resource) : Action ω Unit := do
  match ← Action.attempt (env.get r.kind.kind r.name r.space) with
  | .ok .null => create env recorder r
  | .ok observed => repair env recorder r observed
  | .error f => if f.isNotFound then create env recorder r else Action.fail f

/-- Looks at one object; a failure is counted and logged, and stays one. -/
def keepCounted (env : Environment ω) (recorder : Recorder) (r : Resource) : Action ω Unit := do
  match ← Action.attempt (keep env recorder r) with
  | .ok () => return ()
  | .error f =>
    Action.count (.errors r.kind)
    Action.log Level.error logger ("Failed to reconcile " ++ place r)
    Action.fail f

/-- Goes through managed objects in their order. -/
def run (env : Environment ω) (recorder : Recorder) : List Resource → Action ω Unit
  | [] => return ()
  | r :: rest => do
    keepCounted env recorder r
    run env recorder rest

end Pass

end MonitoringUpkeep
