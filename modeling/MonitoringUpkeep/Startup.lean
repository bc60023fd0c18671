import MonitoringUpkeep.Operator
import MonitoringUpkeep.Probe

/-!
# Start and end of the program

The program reads its configuration, finds the way to the cluster and its own deployment, starts to
answer probes, and then runs the operator until a signal stops it.
-/

namespace MonitoringUpkeep

/-- What the program finds where it is started. -/
structure Host where
  vars : Variables
  /-- how the search for the way to the cluster ends, for each place to look at -/
  client : ClientSource → Except Failure Unit

namespace Startup

variable {ω : Type}

def logger : String := "monitoring.src.__main__"

def clientLogger : String := "monitoring.src.kube"

def seek (host : Host) (source : ClientSource) : Action ω Unit := do
  Action.note (.milestone (.sought source))
  Action.ofExcept (host.client source)

/-- Finds the way to the cluster: from inside it, or by a local file where there is no inside. -/
def findClient (host : Host) : Action ω Unit := do
  match ← Action.attempt (seek host .inCluster) with
  | .ok () => Action.log Level.info clientLogger "Loaded in-cluster Kubernetes configuration"
  | .error (.fault .clientConfiguration _) =>
    seek host .localFile
    Action.log Level.info clientLogger "Loaded local kubeconfig"
  | .error f => Action.fail f

def logLevel (vars : Variables) : Except Failure Int :=
  Level.ofName ((vars "LOG_LEVEL").getD "INFO")

def runtimeVersion (vars : Variables) : String := (vars "APP_VERSION").getD "0.1.0"

/-- The signals that stop the program: termination, and interruption from the keyboard. -/
def signals : List Int := [15, 2]

def signalRecord (number : Int) : LogRecord :=
  ⟨Level.info, logger, s!"Received signal {number}, shutting down", none⟩

/-- Starts to answer probes and to listen for signals. -/
def beginServing (env : Environment ω) (port : Int) : Action ω Unit := do
  Action.note (.milestone (.serving port))
  Action.note (.log (Probe.startRecord port))
  signals.forM env.handle

def run (env : Environment ω) (host : Host) : Action ω Unit := do
  let _ ← Action.ofExcept (logLevel host.vars)
  let c ← Action.ofExcept (Configuration.load host.vars)
  Action.note (.milestone (.described c.operatorVersion (runtimeVersion host.vars)))
  findClient host
  let owner ← Operator.resolveOwner env c
  let operator ← Action.ofExcept (Operator.build env.round c owner)
  beginServing env c.healthPort
  Action.log Level.info logger
    (s!"Reconciling monitoring resources in {c.space} owned by "
      ++ s!"{owner.kind.display}/{owner.name.display}")
  operator.run env
  Action.note (.milestone .closed)
  Action.log Level.info logger "Operator stopped"

end Startup

end MonitoringUpkeep
