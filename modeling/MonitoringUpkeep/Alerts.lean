import MonitoringUpkeep.Settings
import MonitoringUpkeep.Value.Text

/-!
# Alerting rules

The group of alerting and recording rules that is shipped with the operator.
-/

namespace MonitoringUpkeep

/-- An alert: what raises it and what it tells the one who reads it. -/
structure Alert where
  name : String
  expression : String
  description : String
  summary : String
  severity : String
  healthImpact : String
  /-- how long the expression has to hold -/
  duration : Option String := none

namespace Alert

def runbook (a : Alert) : String := "https://kubevirt.io/monitoring/runbooks/" ++ a.name

def document (a : Alert) : Value := .obj (
  [("alert", .str a.name), ("expr", .str a.expression)]
  ++ (match a.duration with
    | some d => [("for", Value.str d)]
    | none => [])
  ++ [
    ("annotations", .obj [
      ("description", a.description), ("summary", a.summary), ("runbook_url", a.runbook)]),
    ("labels", .obj [
      ("severity", a.severity), ("operator_health_impact", a.healthImpact),
      ("kubernetes_operator_part_of", "kubevirt"),
      ("kubernetes_operator_component", "hyperconverged-cluster-operator")])])

/-- A managed component was changed behind the back of its operator. -/
def componentModified : Alert where
  name := "KubeVirtCRModified"
  expression :=
    "sum by(component_name) ((round(increase(kubevirt_hco_out_of_band_modifications_total[10m]))>0 "
    ++ "and kubevirt_hco_out_of_band_modifications_total offset 10m) or "
    ++ "(kubevirt_hco_out_of_band_modifications_total != 0 unless "
    ++ "kubevirt_hco_out_of_band_modifications_total offset 10m))"
  description := "Out-of-band modification for \x7b\x7b $labels.component_name \x7d\x7d."
  summary :=
    "\x7b\x7b $value \x7d\x7d out-of-band CR modifications were detected in the last 10 minutes."
  severity := "warning"
  healthImpact := "warning"

/-- An annotation switches on something unsupported. -/
def unsupportedModification : Alert where
  name := "UnsupportedHCOModification"
  expression := "sum by(annotation_name) ((kubevirt_hco_unsafe_modifications)>0)"
  description :=
    "Unsafe modification for the \x7b\x7b $labels.annotation_name \x7d\x7d annotation in the "
    ++ "HyperConverged resource."
  summary := "Unsafe modifications were detected in the HyperConverged resource."
  severity := "info"
  healthImpact := "none"

/-- The object that asks for the installation is missing. -/
def installationIncomplete : Alert where
  name := "HCOInstallationIncomplete"
  expression := "kubevirt_hco_hyperconverged_cr_exists == 0"
  description :=
    "the installation was not completed; the HyperConverged custom resource is "
    ++ "missing. In order to complete the installation of the Hyperconverged Cluster "
    ++ "Operator you should create the HyperConverged custom resource."
  summary :=
    "the installation was not completed; to complete the installation, create a "
    ++ "HyperConverged custom resource."
  severity := "info"
  healthImpact := "none"
  duration := some "1h"

def operatorDown (space : Value) : Alert where
  name := "HCOOperatorDown"
  expression :=
    "sum(up\x7bnamespace=\"" ++ space.display ++ "\", pod=~\"hco-operator-.*\"\x7d or vector(0)) == 0"
  description := "The HyperConverged Cluster Operator is down or cannot be scraped."
  summary := "The HyperConverged Cluster Operator has been down for more than 5 minutes."
  severity := "critical"
  healthImpact := "critical"
  duration := some "5m"

end Alert

namespace Settings

/-- The rule that records the health of the whole cluster as one number. -/
def healthRecord (s : Settings) : Value := .obj [
  ("record", "kubevirt_hyperconverged_operator_health_status"),
  ("expr", .str (
    "label_replace(vector(2) and on() ((kubevirt_hco_system_health_status>1) or "
    ++ "(count(ALERTS\x7bkubernetes_operator_part_of=\"kubevirt\", alertstate=\"firing\", "
    ++ "operator_health_impact=\"critical\"\x7d)>0)) or (vector(1) and on() "
    ++ "((kubevirt_hco_system_health_status==1) or "
    ++ "(count(ALERTS\x7bkubernetes_operator_part_of=\"kubevirt\", alertstate=\"firing\", "
    ++ "operator_health_impact=\"warning\"\x7d)>0))) or vector(0),"
    ++ "\"name\",\"" ++ s.clusterName.display ++ "\",\"\",\"\")"))]

def ruleGroups (s : Settings) : Value := .obj [
  ("groups", .arr [.obj [
    ("name", "kubevirt.hyperconverged.rules"),
    ("rules", .arr [
      Alert.componentModified.document, Alert.unsupportedModification.document,
      Alert.installationIncomplete.document, (Alert.operatorDown s.space).document,
      s.healthRecord])]])]

end Settings

end MonitoringUpkeep
