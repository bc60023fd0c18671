import MonitoringUpkeep.Measurements
import MonitoringUpkeep.Probe.Request

/-!
# Probes

The program answers three questions over HTTP: whether it is alive, whether it has made a pass
without an error, and what it has measured. A request that does not come to a question is refused
with a page that says why.
-/

namespace MonitoringUpkeep

/-- What is sent back. -/
inductive ProbeBody where
  | text (s : String)
  | measurements
  /-- a page about a request that was refused -/
  | page (s : String)
deriving DecidableEq

/-- The answer to a request. -/
structure ProbeAnswer where
  status : Nat
  body : ProbeBody
deriving DecidableEq

namespace Probe

def logger : String := "monitoring.health"

/-- The media type of what is sent back, where it is told. -/
def mediaType? : ProbeBody → Option String
  | .text _ => none
  | .measurements => some "text/plain; version=0.0.4; charset=utf-8"
  | .page _ => some "text/html;charset=utf-8"

/-- Several slashes in front of a path count as one. -/
def normalized (path : String) : String :=
  match path.toList with
  | '/' :: '/' :: rest => String.ofList ('/' :: rest.dropWhile (· == '/'))
  | _ => path

def answer (ready : Bool) (path : String) : ProbeAnswer :=
  let path := normalized path
  if path = "/healthz" then ⟨200, .text "ok"⟩
  else if path = "/readyz" then
    if ready then ⟨200, .text "reconciled=true"⟩ else ⟨503, .text "reconciled=false"⟩
  else if path = "/metrics" then ⟨200, .measurements⟩
  else ⟨404, .text ""⟩

/-! ## Requests -/

def requestRecord (line : String) (status : Nat) : LogRecord :=
  ⟨Level.debug, logger, s!"\"{line}\" {status} -", none⟩

def refusalRecord (r : Refusal) : LogRecord :=
  ⟨Level.debug, logger, s!"code {r.status}, message {r.message}", none⟩

/-- What is sent back for a request, and the records of it. A request line without words is not
    answered, and one that is too long is not shown. -/
def respond (ready : Bool) (r : Request) : Option ProbeAnswer × List LogRecord :=
  let line := if r.isOverlong then "" else r.line
  match r.path with
  | .ok (some path) =>
    let a := answer ready path
    (some a, [requestRecord line a.status])
  | .ok none => (none, [])
  | .error refusal =>
    (some ⟨refusal.status, .page refusal.page⟩,
      [refusalRecord refusal, requestRecord line refusal.status])

def isByte (c : Char) : Bool := c.toNat < 256

/-- A request is sent with one byte for each character; with any other characters it is not sent at
    all. -/
def checkSent (cs : List Char) : Except Failure Unit :=
  let sent := cs.takeWhile isByte
  match cs.drop sent.length with
  | [] => .ok ()
  | c :: rest => .error (.notBytes c sent.length ((rest.takeWhile fun c => !isByte c).length + 1))

def serve (ready : Bool) (method path : String) :
    Except Failure (Option ProbeAnswer × List LogRecord) := do
  let cs := Request.written method path
  checkSent cs
  return respond ready (Request.ofText cs)

def startRecord (port : Int) : LogRecord :=
  ⟨Level.info, "monitoring.src.health", s!"Health server listening on :{port}", none⟩

end Probe

end MonitoringUpkeep
