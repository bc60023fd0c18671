import MonitoringUpkeep.Alerts
import MonitoringUpkeep.Kind
import MonitoringUpkeep.Owner

/-!
# Managed objects

Each managed object has an identity, a desired state built from the settings and the owner, and
key paths below which its content belongs to the program. Of a service only the ports and the
selector do: the cluster fills in the rest of its specification.
-/

namespace MonitoringUpkeep

/-- A managed object: one of the five kinds, under given settings. -/
structure Resource where
  kind : ManagedKind
  settings : Settings

namespace Settings

/-- The managed objects, in the order in which a pass goes through them. -/
def resources (s : Settings) : List Resource := ManagedKind.all.map fun k => ⟨k, s⟩

end Settings

namespace Resource

/-- The namespace of the object. -/
def space (r : Resource) : Value := r.settings.space

/-- The name of the object; the two kinds of each pair that belongs together share one. -/
def name (r : Resource) : Value :=
  match r.kind with
  | .prometheusRule => r.settings.ruleName
  | .role | .roleBinding => r.settings.roleName
  | .service | .serviceMonitor => r.settings.serviceName

/-- The key paths whose content belongs to the program, labels and owners apart. -/
def ownedPaths (r : Resource) : List (List String) :=
  match r.kind with
  | .prometheusRule | .serviceMonitor => [["spec"]]
  | .role => [["rules"]]
  | .roleBinding => [["roleRef"], ["subjects"]]
  | .service => [["spec", "ports"], ["spec", "selector"]]

/-- The content of the object beside its identity. -/
def payload (r : Resource) : Fields :=
  let s := r.settings
  match r.kind with
  | .prometheusRule => [("spec", s.ruleGroups)]
  | .role => [
    ("rules", .arr [.obj [
      ("apiGroups", .arr [""]), ("resources", .arr ["services", "endpoints", "pods"]),
      ("verbs", .arr ["get", "list", "watch"])]])]
  | .roleBinding => [
    ("roleRef", .obj [
      ("apiGroup", "rbac.authorization.k8s.io"), ("kind", Kind.role.name), ("name", s.roleName)]),
    ("subjects", .arr [.obj [
      ("kind", "ServiceAccount"), ("name", s.scrapingAccount), ("namespace", s.monitoringSpace)]])]
  | .service => [
    ("spec", .obj [
      ("ports", .arr [.obj [
        ("name", s.portName), ("port", s.metricsPort), ("protocol", "TCP"),
        ("targetPort", s.metricsPort)]]),
      ("selector", .obj [("name", s.operatorName)])])]
  | .serviceMonitor => [
    ("spec", .obj [
      ("selector", .obj [("matchLabels", s.labels)]),
      ("endpoints", .arr [.obj [("port", s.portName)]])])]

/-- The desired state of the object under an owner. -/
def desired (r : Resource) (owner : Owner) : Value := .obj (
  [("apiVersion", .str r.kind.kind.apiVersion), ("kind", .str r.kind.kind.name),
    ("metadata", .obj [
      ("name", r.name), ("namespace", r.space), ("labels", r.settings.labels),
      ("ownerReferences", .arr [owner.reference])])]
  ++ r.payload)

/-- The entry by which the status of the cluster object refers to a managed one. -/
def reference (r : Resource) : Value := .obj [
  ("apiVersion", r.kind.kind.apiVersion), ("kind", r.kind.kind.name), ("name", r.name),
  ("namespace", r.space)]

end Resource

end MonitoringUpkeep
