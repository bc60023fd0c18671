import MonitoringUpkeep.Pass

/-!
# References in the status of the cluster object

The status of the cluster object refers to the managed objects. The references that stand there and
those that should are compared as a bag of entries, each identified by its API version, kind,
namespace and name; on any difference the whole list is written anew.
-/

namespace MonitoringUpkeep

namespace Projection

/-- The references that stand in the status of an object. -/
def references (v : Value) : Except Failure (List Value) := do
  let status := (← v.member "status").orElse (.obj [])
  ((← status.member "relatedObjects").orElse (.arr [])).items

/-- What identifies a reference. -/
structure Identity where
  apiVersion : Meaning
  kind : Meaning
  space : Meaning
  name : Meaning
deriving DecidableEq

/-- A value as part of what identifies a reference. -/
def identifying (v : Value) : Except Failure Meaning :=
  match v with
  | .arr _ | .obj _ => .error (.misfit (.notAKey v.typeName))
  | _ => .ok v.meaning

def identity (reference : Value) : Except Failure Identity := do
  let apiVersion ← reference.member "apiVersion"
  let kind ← reference.member "kind"
  let space ← reference.member "namespace"
  let name ← reference.member "name"
  return {
    apiVersion := ← identifying apiVersion
    kind := ← identifying kind
    space := ← identifying space
    name := ← identifying name }

def identities (references : List Value) : Except Failure (List Identity) :=
  references.mapM identity

/-- The object with the given references in its status. -/
def withReferences (v : Value) (references : List Value) : Except Failure Value := do
  let status := Fields.put (Fields.inside (← v.member "status")) "relatedObjects" (.arr references)
  v.withPart "status" (.obj status)

/-- The object as it should be, if the references in its status are not those of the given managed
    objects. -/
def update? (resources : List Resource) (v : Value) : Except Failure (Option Value) := do
  let wanted := resources.map Resource.reference
  let found ← identities (← references v)
  if found.Perm (← identities wanted) then return none
  else return some (← withReferences v wanted)

/-- The log message about changed references of an object. -/
def notice (v : Value) (count : Nat) : Except Failure String := do
  let name := match ← v.metadata with
    | .obj fs => .ok ((Fields.get? fs "name").getD "<unknown>")
    | other => .error (.noMember other "get")
  return s!"Related objects of {(← name).display} changed; {count} entries"

def announce {ω : Type} (resources : List Resource) (v : Value) : Action ω Unit := do
  Action.log Level.info Pass.logger (← Action.ofExcept (notice v resources.length))

end Projection

/-- The cluster object in the course of a pass, and whether its status has to be written back. -/
structure StatusRequest where
  object : Value
  dirty : Bool := false

namespace StatusRequest

/-- The request after the comparison of references. -/
def projected (resources : List Resource) (r : StatusRequest) : Except Failure StatusRequest := do
  match ← Projection.update? resources r.object with
  | none => return r
  | some v => return ⟨v, true⟩

end StatusRequest

end MonitoringUpkeep
