import MonitoringUpkeep.Value.Access

/-!
# The owner of the managed objects

Every managed object is owned by one object, the deployment of the program itself, so that the
cluster collects them together with it.
-/

namespace MonitoringUpkeep

/-- The identity of the owning object, as read from the cluster. -/
structure Owner where
  name : Value
  /-- the namespace it lives in -/
  space : Value
  uid : Value
  kind : Value := "Deployment"
  apiVersion : Value := "apps/v1"

namespace Owner

/-- The identity of an object; `kind` and `apiVersion` stand in where the object gives none. -/
def ofObject (v : Value) (kind : Value := "Deployment") (apiVersion : Value := "apps/v1") :
    Except Failure Owner := do
  let metadata ← v.metadata
  let name ← metadata.part "name"
  let uid ← metadata.part "uid"
  return {
    name, uid
    space := (Fields.get? (Fields.inside metadata) "namespace").getD ""
    kind := (← v.member "kind").orElse kind
    apiVersion := (← v.member "apiVersion").orElse apiVersion }

/-- The reference by which an owned object names its owner. -/
def reference (o : Owner) : Value := .obj [
  ("apiVersion", o.apiVersion), ("kind", o.kind), ("name", o.name), ("uid", o.uid),
  ("controller", .bool false), ("blockOwnerDeletion", .bool false)]

end Owner

end MonitoringUpkeep
