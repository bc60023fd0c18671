import MonitoringUpkeep.Failure
import MonitoringUpkeep.Settings
import MonitoringUpkeep.Text.Integer
import MonitoringUpkeep.Text.LetterCase

/-!
# Configuration

The program is configured by environment variables. An absent variable has a default, a number has
to be an integer within the bounds of its variable, and the first variable that is wrong is the one
that is reported.
-/

namespace MonitoringUpkeep

abbrev Variables := String → Option String

/-- An integer variable: its name, its default and its bounds. -/
structure IntegerVariable where
  name : String
  default : Int
  minimum : Option Int := none
  maximum : Option Int := none

namespace IntegerVariable

/-- Checks a value against the bounds of its variable, the smaller one first. -/
def check (v : IntegerVariable) (value : Int) : Except Failure Int :=
  match v.minimum with
  | some low =>
    if value < low then .error (.belowMinimum v.name low value) else checkMaximum v value
  | none => checkMaximum v value
where
  /-- Checks a value against the upper bound of its variable. -/
  checkMaximum (v : IntegerVariable) (value : Int) : Except Failure Int :=
    match v.maximum with
    | some high => if high < value then .error (.aboveMaximum v.name high value) else .ok value
    | none => .ok value

def read (v : IntegerVariable) (vars : Variables) : Except Failure Int :=
  match vars v.name with
  | none => v.check v.default
  | some text =>
    match Text.readInteger? text with
    | some value => v.check value
    | none => .error (.notAnInteger v.name)

/-- The port on which the operator serves its metrics. -/
def metricsPort : IntegerVariable := ⟨"METRICS_PORT", 8383, some 1, some 65535⟩

def resyncSeconds : IntegerVariable := ⟨"RESYNC_SECONDS", 60, some 1, none⟩

def healthPort : IntegerVariable := ⟨"HEALTH_PORT", 8080, some 1, some 65535⟩

/-- The seconds that a change of the gate may take. -/
def gateTimeout : IntegerVariable := ⟨"FEATURE_GATE_TIMEOUT_SECONDS", 300, some 1, none⟩

/-- The milliseconds between two looks at a change of the gate. -/
def gatePoll : IntegerVariable := ⟨"FEATURE_GATE_POLL_MILLISECONDS", 1000, some 10, some 60000⟩

end IntegerVariable

/-- Whether a text is one of the words for yes, in any letter case and with blanks around it. -/
def isYes (s : String) : Bool :=
  ["1", "true", "yes", "on"].contains (Text.lower (Text.trim s))

/-- What the program is told at its start. -/
structure Configuration where
  /-- the namespace that the program and the managed objects live in -/
  space : String
  /-- the deployment that owns the managed objects -/
  deployment : String
  operatorName : String
  operatorVersion : String
  managedBy : String
  clusterName : String
  monitoringSpace : String
  metricsPort : Int
  resyncSeconds : Int
  healthPort : Int
  gateTimeoutSeconds : Int
  gatePollMilliseconds : Int
  /-- the wanted state of the tenant quota gate; none leaves the gate alone -/
  tenantQuota : Option Bool

namespace Configuration

/-- The wanted state of the gate: none when the variable is absent or blank. -/
def readGate : Option String → Option Bool
  | none => none
  | some text => if Text.allBlank text then none else some (isYes text)

def load (vars : Variables) : Except Failure Configuration := do
  let space := (vars "OPERATOR_NAMESPACE").getD "kubevirt-hyperconverged"
  if Text.allBlank space then throw .blankNamespace
  return {
    space
    deployment := (vars "OPERATOR_DEPLOYMENT").getD "hco-operator"
    operatorName := (vars "OPERATOR_NAME").getD "hyperconverged-cluster-operator"
    operatorVersion := (vars "OPERATOR_VERSION").getD "unknown"
    managedBy := (vars "OPERATOR_MANAGED_BY").getD "hco-operator"
    clusterName := (vars "HC_NAME").getD "kubevirt-hyperconverged"
    monitoringSpace := (vars "MONITORING_NAMESPACE").getD "openshift-monitoring"
    metricsPort := ← IntegerVariable.metricsPort.read vars
    resyncSeconds := ← IntegerVariable.resyncSeconds.read vars
    healthPort := ← IntegerVariable.healthPort.read vars
    gateTimeoutSeconds := ← IntegerVariable.gateTimeout.read vars
    gatePollMilliseconds := ← IntegerVariable.gatePoll.read vars
    tenantQuota := readGate (vars "ENABLE_MANAGED_TENANT_QUOTA") }

/-- The settings that the managed objects are built from. -/
def settings (c : Configuration) : Settings where
  space := c.space
  clusterName := c.clusterName
  operatorName := c.operatorName
  operatorVersion := c.operatorVersion
  managedBy := c.managedBy
  monitoringSpace := c.monitoringSpace
  metricsPort := .int c.metricsPort

/-- The seconds between two looks at a change of the gate. -/
def gatePollSeconds (c : Configuration) : Rat := c.gatePollMilliseconds / 1000

end Configuration

end MonitoringUpkeep
