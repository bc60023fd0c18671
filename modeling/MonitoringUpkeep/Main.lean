import MonitoringUpkeep.Json.Reader
import MonitoringUpkeep.Rehearsal.Journal

/-!
# Command line

Rehearses the program on the objects of a cluster. The configuration is that of the environment;
the objects are read from standard input, as a JSON array of pairs of a kind and an object. The log
goes to standard error, and the objects that the cluster has at the end to standard output, one on
a line. The argument is the number of rests after which the program is told to stop, one if absent.
-/

namespace MonitoringUpkeep.CommandLine

open Rehearsal

def variableNames : List String :=
  ["LOG_LEVEL", "APP_VERSION", "OPERATOR_NAMESPACE", "OPERATOR_DEPLOYMENT", "OPERATOR_NAME",
    "OPERATOR_VERSION", "OPERATOR_MANAGED_BY", "HC_NAME", "MONITORING_NAMESPACE", "METRICS_PORT",
    "RESYNC_SECONDS", "HEALTH_PORT", "FEATURE_GATE_TIMEOUT_SECONDS",
    "FEATURE_GATE_POLL_MILLISECONDS", "ENABLE_MANAGED_TENANT_QUOTA"]

/-- The time of all records: the rehearsed clock starts with the year 1970. -/
def stamp : String := "1970-01-01 00:00:00,000"

/-- The deed that puts one of the given objects into the cluster. -/
def placing (entry : Value) : Except Failure Deed :=
  match entry with
  | .arr [kind, object] => .ok (.put kind object)
  | v => .error (.misfit (.noParts v.typeName))

/-- The world with the given objects in its cluster. -/
def worldOf (objects : Value) (rests : Nat) : Except Failure World := do
  let deeds ← (← objects.items).mapM placing
  let (ending, world) := World.applyAll { maxWaits := rests } deeds
  ending
  return world

/-- What a rehearsal comes to: the log, the objects of the cluster, and the failure that ended it,
    if one did. -/
structure Report where
  log : List LogRecord
  objects : List Value
  failure : Option Failure

def rehearse (vars : Variables) (world : World) : Report :=
  let outcome := Startup.run world.environment ⟨vars, fun _ => .ok ()⟩ world
  { log := journal outcome.world.signals 0 outcome.trace
    objects := outcome.world.store.entries.map Prod.snd
    failure := match outcome.ending with
      | .failed f => some f
      | _ => none }

/-- The lines of the records of a severity and above; failures show without places. -/
def logLines (level : Int) (log : List LogRecord) : List String :=
  (log.filter (level ≤ ·.level)).map (·.line Failure.summary stamp)

def readVariables : IO Variables := do
  let found ← variableNames.mapM fun name => return (name, ← IO.getEnv name)
  return fun name => (found.lookup name).join

/-- Prints a report, and a failure as the last line of the log. -/
def printReport (level : Int) (report : Report) : IO UInt32 := do
  (logLines level report.log).forM IO.eprintln
  report.objects.forM fun object => IO.println (Json.render object)
  match report.failure with
  | none => return 0
  | some f =>
    IO.eprintln f.summary
    return 1

def runOn (vars : Variables) (text : String) (rests : Nat) : IO UInt32 := do
  let some objects := Json.parse? text
    | do
      IO.eprintln "the objects of the cluster are not readable"
      return 2
  match worldOf objects rests, Startup.logLevel vars with
  | .ok world, .ok level => printReport level (rehearse vars world)
  | .error f, _ | _, .error f =>
    IO.eprintln f.summary
    return 2

end MonitoringUpkeep.CommandLine

open MonitoringUpkeep in
def main (arguments : List String) : IO UInt32 := do
  let vars ← CommandLine.readVariables
  let text ← (← IO.getStdin).readToEnd
  CommandLine.runOn vars text ((arguments.head?.bind String.toNat?).getD 1)
