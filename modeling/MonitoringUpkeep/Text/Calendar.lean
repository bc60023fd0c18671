import MonitoringUpkeep.Text.Template

/-!
# Calendar dates

The date and the time of day of a number of seconds since the start of 1970, in universal time.
-/

namespace MonitoringUpkeep.Calendar

/-- A day of the calendar. -/
structure Date where
  year : Int
  month : Nat
  day : Nat
deriving DecidableEq, Repr

/-- The day that lies a number of days after the first of January 1970. Years are counted from
    March, so that a leap day is the last day of its year; 400 such years have 146097 days. -/
def dateOf (days : Int) : Date :=
  let n := days + 719468
  let era := n.fdiv 146097
  let dayOfEra := (n - era * 146097).toNat
  let yearOfEra :=
    (dayOfEra - dayOfEra / 1460 + dayOfEra / 36524 - dayOfEra / 146096) / 365
  let dayOfYear := dayOfEra - (365 * yearOfEra + yearOfEra / 4 - yearOfEra / 100)
  let shifted := (5 * dayOfYear + 2) / 153
  let month := if shifted < 10 then shifted + 3 else shifted - 9
  { year := yearOfEra + era * 400 + (if month ≤ 2 then 1 else 0)
    month
    day := dayOfYear - (153 * shifted + 2) / 5 + 1 }

def clockText (date : Date) (second : Nat) : String :=
  let two := fun n => String.ofList (Decimal.padded 2 n)
  toString date.year ++ "-" ++ two date.month ++ "-" ++ two date.day ++ " "
    ++ two (second / 3600) ++ ":" ++ two (second / 60 % 60) ++ ":" ++ two (second % 60)

/-- The first years that no date can have, before and after all others. -/
def yearBounds : Int × Int := (-2147481749, 2147485548)

def lastYear : Int := 2147483647

/-- The first number of seconds that is too large to be counted. -/
def secondsLimit : Nat := Nat.pow 2 63

/-- The whole seconds of a number of seconds, rounded down. -/
def wholeSeconds (seconds : Value) : Except Failure Int := do
  let whole ← match ← seconds.exact with
    | .finite q => pure q.floor
    | .negativeZero => pure 0
    | .infinite _ => throw (.overflow .moment)
    | .notANumber => throw (.fault .badValue "Invalid value NaN (not a number)")
  if -Int.ofNat secondsLimit ≤ whole ∧ whole < Int.ofNat secondsLimit then return whole
  else throw (.overflow .moment)

/-- The date and the time of day of a number of seconds. -/
def moment (seconds : Value) : Except Failure String := do
  let whole ← wholeSeconds seconds
  let date := dateOf (whole.fdiv 86400)
  if date.year ≤ yearBounds.1 ∨ yearBounds.2 ≤ date.year then
    throw (.fault .system "[Errno 75] Value too large for defined data type")
  else if lastYear < date.year then throw (.overflow .year)
  else return clockText date (whole.fmod 86400).toNat

/-- The date and the time of day of a number of seconds, with milliseconds. -/
def timestamp (seconds milliseconds : Value) : Except Failure String := do
  let units ← Template.render "%s,%03d" [.str (← moment seconds), milliseconds]
  return String.ofList (units.map Symbol.glyph)

end MonitoringUpkeep.Calendar
