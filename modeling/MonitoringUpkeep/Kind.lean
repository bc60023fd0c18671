/-!
# Kinds of cluster objects

The closed set of kinds that the program reads or writes, and among them the five whose objects it
keeps in order.
-/

namespace MonitoringUpkeep

/-- The kinds of objects the program has to do with. -/
inductive Kind where
  | prometheusRule
  | role
  | roleBinding
  | service
  | serviceMonitor
  | deployment
  | pod
  | node
  | hyperConverged
  | tenantQuota
deriving DecidableEq

namespace Kind

def all : List Kind :=
  [.prometheusRule, .role, .roleBinding, .service, .serviceMonitor, .deployment, .pod, .node,
    .hyperConverged, .tenantQuota]

def name : Kind → String
  | .prometheusRule => "PrometheusRule"
  | .role => "Role"
  | .roleBinding => "RoleBinding"
  | .service => "Service"
  | .serviceMonitor => "ServiceMonitor"
  | .deployment => "Deployment"
  | .pod => "Pod"
  | .node => "Node"
  | .hyperConverged => "HyperConverged"
  | .tenantQuota => "MTQ"

def constant : Kind → String
  | .prometheusRule => "PROMETHEUS_RULE"
  | .role => "ROLE"
  | .roleBinding => "ROLE_BINDING"
  | .service => "SERVICE"
  | .serviceMonitor => "SERVICE_MONITOR"
  | .deployment => "DEPLOYMENT"
  | .pod => "POD"
  | .node => "NODE"
  | .hyperConverged => "HYPERCONVERGED"
  | .tenantQuota => "MTQ"

def apiVersion : Kind → String
  | .prometheusRule | .serviceMonitor => "monitoring.coreos.com/v1"
  | .role | .roleBinding => "rbac.authorization.k8s.io/v1"
  | .service | .pod | .node => "v1"
  | .deployment => "apps/v1"
  | .hyperConverged => "hco.kubevirt.io/v1beta1"
  | .tenantQuota => "mtq.kubevirt.io/v1alpha1"

def ofName? (s : String) : Option Kind := all.find? fun k => k.name = s

end Kind

/-- The kinds of the objects that the program keeps in order. -/
inductive ManagedKind where
  | prometheusRule
  | role
  | roleBinding
  | service
  | serviceMonitor
deriving DecidableEq

namespace ManagedKind

/-- All managed kinds, in the order in which a pass goes through them. -/
def all : List ManagedKind := [.prometheusRule, .role, .roleBinding, .service, .serviceMonitor]

def kind : ManagedKind → Kind
  | .prometheusRule => .prometheusRule
  | .role => .role
  | .roleBinding => .roleBinding
  | .service => .service
  | .serviceMonitor => .serviceMonitor

def ofKind? (k : Kind) : Option ManagedKind := all.find? fun m => m.kind = k

end ManagedKind

end MonitoringUpkeep
