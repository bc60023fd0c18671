import MonitoringUpkeep.Failure
import MonitoringUpkeep.Json.Writer
import MonitoringUpkeep.Redaction
import MonitoringUpkeep.Text.Keyword

/-!
# Logging

A record of the log has a severity, the name of its logger, a message and possibly the failure that
it reports. A line of the log is a JSON object with the secrets taken out of the message and of the
text of the failure. That text is the runtime's: it tells, on several lines, what went wrong and the
places that the failure came through, so here it is any text.
-/

namespace MonitoringUpkeep

namespace Level

/-- Severities, the higher the more severe. -/
def debug : Int := 10

@[inherit_doc debug]
def info : Int := 20

@[inherit_doc debug]
def warning : Int := 30

@[inherit_doc debug]
def error : Int := 40

def names : List (Int × String) :=
  [(50, "CRITICAL"), (40, "ERROR"), (30, "WARNING"), (20, "INFO"), (10, "DEBUG"), (0, "NOTSET")]

def aliases : List (Int × String) := [(50, "FATAL"), (30, "WARN")]

def name (level : Int) : String :=
  match names.find? (·.1 = level) with
  | some (_, name) => name
  | none => s!"Level {level}"

/-- The names in the place of a severity that stand for something else: a text, and a table. -/
def reserved : List (String × Failure) := [
  ("BASIC_FORMAT", .fault .badValue "Unknown level: '%(levelname)s:%(name)s:%(message)s'"),
  ("_STYLES", .misfit (.arguments "not a severity"))]

/-- The severity that a name asks for, in any letter case; an unknown name asks for information. -/
def ofName (s : String) : Except Failure Int :=
  let wanted := Text.keyword s
  match (names ++ aliases).find? (·.2 = wanted), reserved.find? (·.1 = wanted) with
  | some (level, _), _ => .ok level
  | none, some (_, f) => .error f
  | none, none => .ok info

def ofValue (v : Value) : Except Failure Int :=
  match v with
  | .str s => ofName s
  | v => .error (.noMember v "upper")

/-- How a value shows in the place of a severity: a number as its name, a name as its number. -/
def label (v : Value) : Except Failure Value :=
  match v with
  | .arr _ | .obj _ => .error (.misfit (.notAKey v.typeName))
  | v =>
    match names.find? (fun known => decide (v ≈ .int known.1)),
      (names ++ aliases).find? (fun known => decide (v ≈ .str known.2)) with
    | some (_, name), _ => .ok name
    | none, some (level, _) => .ok (.int level)
    | none, none => .ok (.str ("Level " ++ v.display))

end Level

/-- A record of the log. -/
structure LogRecord where
  level : Int
  logger : String
  message : String
  failure : Option Failure := none

/-- A line of the log: a JSON object with the secrets taken out of the message and of the text of
    the failure, if one is reported. -/
def logLine {α : Type} [Symbol α] (stamp : String) (level logger : Value) (message : List α)
    (failure : Option String) : String := String.ofList (Json.writeObject (
  [("ts", Json.writeText stamp), ("level", Json.write level), ("logger", Json.write logger),
    ("msg", Json.writeSymbols (Redaction.redactSymbols message))]
  ++ match failure with
    | some text => [("error", Json.writeText (Redaction.redact text))]
    | none => []))

/-- A record as a line of the log; `text` is how the runtime writes a failure, and `stamp` the time of
    the record. -/
def LogRecord.line (r : LogRecord) (text : Failure → String) (stamp : String) : String :=
  logLine stamp (Level.name r.level) r.logger r.message.toList (r.failure.map text)

end MonitoringUpkeep
