import MonitoringUpkeep.Trace

/-!
# Measurements

What the program shows about its own work: counts of passes, writes, errors and status updates, the
durations of gate changes, and the versions it runs with. All of it is read off the trace. The text
form lists one family of samples after the other.
-/

namespace MonitoringUpkeep

/-- The durations measured for one condition, in the order of their measurement. -/
structure Durations where
  condition : GateCondition
  seconds : List Binary64

/-- What was measured so far. -/
structure Measurements where
  /-- how often each thing was counted, in the order of first counting -/
  counts : List (Counter × Nat) := []
  /-- durations, in the order of the first measurement of their condition -/
  durations : List Durations := []
  /-- whether there was a success -/
  succeeded : Bool := false
  /-- the versions of the operator and of its runtime -/
  versions : Option (String × String) := none

namespace Measurements

def countIn (c : Counter) : List (Counter × Nat) → List (Counter × Nat)
  | [] => [(c, 1)]
  | (d, n) :: rest => if d = c then (d, n + 1) :: rest else (d, n) :: countIn c rest

def measureIn (condition : GateCondition) (seconds : Binary64) : List Durations → List Durations
  | [] => [⟨condition, [seconds]⟩]
  | d :: rest =>
    if d.condition = condition then { d with seconds := d.seconds ++ [seconds] } :: rest
    else d :: measureIn condition seconds rest

/-- The measurements after one more entry of the trace. -/
def record (m : Measurements) : Entry → Measurements
  | .count c => { m with counts := countIn c m.counts }
  | .measured condition seconds =>
    { m with durations := measureIn condition seconds m.durations }
  | .succeeded => { m with succeeded := true }
  | .milestone (.described version runtime) => { m with versions := some (version, runtime) }
  | _ => m

def after (m : Measurements) (t : Trace) : Measurements := t.foldl record m

end Measurements

/-! ## Numbers of samples -/

namespace Decimal

/-- The digits of a number above a million, written with an exponent. -/
def withExponent (text : String) : String :=
  let whole := text.toList.takeWhile (· != '.')
  let digits := whole ++ text.toList.drop (whole.length + 1)
  let mantissa := match digits with
    | d :: ds => d :: '.' :: ds
    | [] => []
  let kept := (mantissa.reverse.dropWhile fun c => c == '0' || c == '.').reverse
  String.ofList kept ++ "e+0" ++ toString (whole.length - 1)

end Decimal

/-- The text of the number of a sample; a positive number above a million has an exponent. -/
def Binary64.sampleText (x : Binary64) : String :=
  let text := x.text "Inf" "NaN"
  if x = .infinite false then "+" ++ text
  else if text.contains '.' && 6 < (text.toList.takeWhile (· != '.')).length && !x.isNegative then
    Decimal.withExponent text
  else text

/-! ## Samples -/

/-- One number that is shown, with its labels in the order of their names. -/
structure Sample where
  name : String
  labels : List (String × String) := []
  value : Binary64

/-- Samples that belong together. -/
structure Family where
  name : String
  help : String
  type : String
  samples : List Sample

namespace Family

def stem : String := "hco_monitoring"

end Family

def GateCondition.label : GateCondition → String
  | .patch => "patch"
  | .available => "available"
  | .removed => "removed"
  | .workloads => "workloads"

namespace Durations

/-- The bounds of the buckets that durations are counted in. -/
def bounds : List Nat := [0, 1, 5, 10, 30, 60, 120, 300]

/-- The first bound is half a second, the others are whole ones. -/
def boundValue (n : Nat) : Binary64 := .finite (if n = 0 then mkRat 1 2 else n)

/-- The sum of durations, rounded after each addition. -/
def total (d : Durations) : Binary64 := d.seconds.foldl (Binary64.add Binary64.ofRat) (.finite 0)

def upTo (d : Durations) (bound : Binary64) : Nat := (d.seconds.filter (·.le bound)).length

/-- The samples of the durations of one condition; a bucket counts all durations up to its bound,
    and the last one has no bound but infinity. -/
def samples (d : Durations) : List Sample :=
  let name := Family.stem ++ "_feature_gate_wait_seconds"
  let label := ("condition", d.condition.label)
  let limits := bounds.map boundValue ++ [Binary64.infinite false]
  let buckets := limits.map fun bound =>
    Sample.mk (name ++ "_bucket") [label, ("le", bound.sampleText)] (.finite (d.upTo bound))
  buckets ++ [⟨name ++ "_count", [label], .finite (d.upTo (.infinite false))⟩,
    ⟨name ++ "_sum", [label], d.total⟩]

end Durations

namespace Measurements

/-- The sample of a count, if it belongs to a family of counts. -/
def countSample? (name : String) (labels? : Counter → Option (List (String × String))) :
    Counter × Nat → Option Sample
  | (c, n) => (labels? c).map fun labels => ⟨name, labels, .finite n⟩

def countFamily (m : Measurements) (suffix help : String)
    (labels? : Counter → Option (List (String × String))) : Family :=
  let name := Family.stem ++ suffix
  ⟨name, help, "counter", m.counts.filterMap (countSample? name labels?)⟩

def statusUpdates (m : Measurements) : Nat := (m.counts.lookup .statusUpdates).getD 0

/-- The family of the time of the last success, which is shown as one. -/
def successFamily (m : Measurements) : Family :=
  let name := Family.stem ++ "_last_success_timestamp_seconds"
  ⟨name, "Unix time of the last reconcile pass that completed without error", "gauge",
    [⟨name, [], .finite (if m.succeeded then 1 else 0)⟩]⟩

/-- All families, in the order in which they are shown. -/
def families (m : Measurements) : List Family := [
  m.countFamily "_reconcile_passes_total" "Total monitoring reconcile passes by outcome" fun
    | .passes succeeded => some [("result", if succeeded then "success" else "error")]
    | _ => none,
  m.countFamily "_resource_actions_total" "Total writes to managed monitoring resources" fun
    | .writes kind created =>
      some [("action", if created then "created" else "updated"), ("kind", kind.kind.name)]
    | _ => none,
  m.countFamily "_reconcile_errors_total" "Total store errors that aborted a reconcile pass" fun
    | .errors kind => some [("kind", kind.kind.name)]
    | _ => none,
  ⟨Family.stem ++ "_status_updates_total",
    "Total related-objects status writes on the HyperConverged resource", "counter",
    [⟨Family.stem ++ "_status_updates_total", [], .finite m.statusUpdates⟩]⟩,
  m.successFamily,
  ⟨Family.stem ++ "_feature_gate_wait_seconds",
    "Seconds spent waiting for a feature gate change to be observed", "histogram",
    m.durations.flatMap Durations.samples⟩,
  ⟨Family.stem ++ "_info", "Build information for the monitoring reconciler", "gauge",
    [⟨Family.stem ++ "_info",
      match m.versions with
      | some (version, runtime) => [("runtime", runtime), ("version", version)]
      | none => [],
      .finite 1⟩]⟩]

def samples (m : Measurements) : List Sample := m.families.flatMap Family.samples

end Measurements

/-! ## Text form -/

namespace Sample

def labelChar (c : Char) : List Char :=
  if c = '\\' then ['\\', '\\'] else if c = '\n' then ['\\', 'n']
  else if c = '"' then ['\\', '"'] else [c]

def labelText (l : String × String) : String :=
  l.1 ++ "=\"" ++ String.ofList (l.2.toList.flatMap labelChar) ++ "\""

def line (s : Sample) : String :=
  let labels :=
    if s.labels.isEmpty then ""
    else "\x7b" ++ ",".intercalate (s.labels.map labelText) ++ "\x7d"
  s.name ++ labels ++ " " ++ s.value.sampleText

end Sample

namespace Family

def header (f : Family) : List String :=
  ["# HELP " ++ f.name ++ " " ++ f.help, "# TYPE " ++ f.name ++ " " ++ f.type]

def lines (f : Family) : List String := f.header ++ f.samples.map Sample.line

end Family

end MonitoringUpkeep
