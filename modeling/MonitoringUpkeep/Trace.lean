import MonitoringUpkeep.Kind
import MonitoringUpkeep.Log

/-!
# Traces

What the program does to the world around it, as a list of entries in the order in which they
happen: requests to the cluster with their replies, events, log records, waits, and what it counts
and shows about itself.
-/

namespace MonitoringUpkeep

/-- A request to the store of cluster objects. -/
inductive Request where
  | get (kind : Kind) (name space : Value)
  | create (kind : Kind) (body : Value)
  | update (kind : Kind) (body : Value)
  | updateStatus (kind : Kind) (body : Value)
  | patch (kind : Kind) (name : Value) (operations : Value) (space : Value)
  | list (kind : Kind) (space selector : Value)

namespace Request

def verb : Request → String
  | .get .. => "get"
  | .create .. => "create"
  | .update .. => "update"
  | .updateStatus .. => "update_status"
  | .patch .. => "patch"
  | .list .. => "list"

def kind : Request → Kind
  | .get kind .. | .create kind _ | .update kind _ | .updateStatus kind _ | .patch kind ..
  | .list kind .. => kind

def body? : Request → Option Value
  | .create _ body | .update _ body | .updateStatus _ body => some body
  | _ => none

end Request

/-- A reply of the store; a list is answered with an array. -/
abbrev Reply := Except Failure Value

/-- An event reported on the owner. -/
structure Event where
  type : Value
  reason : Value
  message : Value

namespace Event

/-- The report of a managed object that was created. -/
def created (kind : String) (name : Value) : Event :=
  ⟨"Normal", "Created", s!"Created {kind} {name.display}"⟩

/-- The report of a managed object that was repaired. -/
def updated (kind : String) (name : Value) : Event :=
  ⟨"Normal", "Updated", s!"Updated {kind} {name.display}"⟩

def passFailed (cause : String) : Event :=
  ⟨"Warning", "ReconcileError", s!"Monitoring reconcile failed: {cause}"⟩

end Event

/-- What the program counts. -/
inductive Counter where
  | passes (succeeded : Bool)
  | writes (kind : ManagedKind) (created : Bool)
  | errors (kind : ManagedKind)
  | statusUpdates
deriving DecidableEq

/-- The changes of the gate whose duration is measured. -/
inductive GateCondition where
  | patch
  | available
  | removed
  | workloads
deriving DecidableEq

/-- Where the program finds out how to reach the cluster. -/
inductive ClientSource where
  | inCluster
  | localFile
deriving DecidableEq

/-- What the program does once, at its start or its end. -/
inductive Milestone where
  /-- it tells its version and that of its runtime -/
  | described (version runtime : String)
  /-- it looks for the way to the cluster -/
  | sought (source : ClientSource)
  /-- it answers probes on a port -/
  | serving (port : Int)
  /-- it stops when it gets a signal -/
  | handling (signal : Int)
  /-- it no longer answers probes -/
  | closed

/-- One thing that the program does. -/
inductive Entry where
  | call (request : Request) (reply : Reply)
  /-- an event is sent to a namespace, with its body -/
  | event (e : Event) (space body : Value)
  | log (record : LogRecord)
  | wait (seconds : Value)
  | count (counter : Counter)
  | measured (condition : GateCondition) (seconds : Binary64)
  /-- the time of the last success is noted -/
  | succeeded
  /-- the readiness flag is set or cleared -/
  | ready (flag : Bool)
  | milestone (m : Milestone)

abbrev Trace := List Entry

namespace Trace

def requests (t : Trace) : List Request := t.filterMap fun
  | .call request _ => some request
  | _ => none

def events (t : Trace) : List Event := t.filterMap fun
  | .event e _ _ => some e
  | _ => none

def records (t : Trace) : List LogRecord := t.filterMap fun
  | .log record => some record
  | _ => none

def waits (t : Trace) : List Value := t.filterMap fun
  | .wait seconds => some seconds
  | _ => none

def counters (t : Trace) : List Counter := t.filterMap fun
  | .count counter => some counter
  | _ => none

def readyAfter (before : Bool) (t : Trace) : Bool := t.foldl (fun flag entry =>
  match entry with
  | .ready new => new
  | _ => flag) before

end Trace

end MonitoringUpkeep
