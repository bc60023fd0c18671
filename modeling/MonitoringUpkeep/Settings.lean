import MonitoringUpkeep.Value.Basic

/-!
# Settings

The names, ports and namespaces that the managed objects are built from, and the labels that mark
an object as one of them.
-/

namespace MonitoringUpkeep

/-- What the managed objects are built from, as given. -/
structure Settings where
  /-- the namespace the managed objects live in -/
  space : Value
  clusterName : Value := "kubevirt-hyperconverged"
  operatorName : Value := "hyperconverged-cluster-operator"
  operatorVersion : Value := "unknown"
  managedBy : Value := "hco-operator"
  /-- the namespace of the monitoring stack, whose service account scrapes the metrics -/
  monitoringSpace : Value := "openshift-monitoring"
  metricsPort : Value := .int 8383
  portName : Value := "http-metrics"
  ruleName : Value := "kubevirt-hyperconverged-prometheus-rule"
  roleName : Value := "hco-operator-metrics"
  serviceName : Value := "kubevirt-hyperconverged-operator-metrics"
  scrapingAccount : Value := "prometheus-k8s"

namespace Settings

/-- The labels every managed object carries. -/
def labels (s : Settings) : Value := .obj [
  ("app", s.clusterName),
  ("app.kubernetes.io/managed-by", s.managedBy),
  ("app.kubernetes.io/version", s.operatorVersion),
  ("app.kubernetes.io/part-of", "hyperconverged-cluster"),
  ("app.kubernetes.io/component", "monitoring")]

end Settings

end MonitoringUpkeep
