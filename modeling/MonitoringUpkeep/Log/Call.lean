import MonitoringUpkeep.Log
import MonitoringUpkeep.Text.Calendar

/-!
# Calls of the log

What any party may hand to the log: a severity, a template with arguments, a time, the text of a
failure. Nothing is known about these but that they are values and a text.
-/

namespace MonitoringUpkeep

/-- A call of the log. -/
structure LogCall where
  level : Value
  logger : Value
  template : Value
  arguments : List Value
  /-- the seconds since the start of 1970 -/
  seconds : Value
  milliseconds : Value
  /-- the text of the failure that is reported, as the runtime writes it -/
  failure : Option String

def LogCall.line (c : LogCall) : Except Failure String := do
  let level ← Level.label c.level
  let stamp ← Calendar.timestamp c.seconds c.milliseconds
  let message ← Template.render c.template.display c.arguments
  return logLine stamp level c.logger message c.failure

end MonitoringUpkeep
