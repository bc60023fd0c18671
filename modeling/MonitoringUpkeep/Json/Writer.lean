import MonitoringUpkeep.Number.Decimal
import MonitoringUpkeep.Text.Hex
import MonitoringUpkeep.Text.Symbol
import MonitoringUpkeep.Value.Basic

/-!
# JSON text of values

Text is written with printable ASCII characters only: every other character becomes one escaped
16-bit unit, or two where it lies beyond them. Members are separated by a comma and a space, a name
from its value by a colon and a space.
-/

namespace MonitoringUpkeep.Json

def escapedUnit (n : Nat) : List Char := '\\' :: 'u' :: Text.hex 4 n

/-- The two units that stand for a character beyond the 16-bit range. -/
def surrogates (n : Nat) : Nat × Nat :=
  (0xd800 + (n - 0x10000) / 0x400, 0xdc00 + (n - 0x10000) % 0x400)

def escapedCode (n : Nat) : List Char :=
  if n = 0x22 ∨ n = 0x5c then ['\\', Char.ofNat n]
  else if 0x20 ≤ n ∧ n < 0x7f then [Char.ofNat n]
  else if n = 0xa then ['\\', 'n']
  else if n = 0xd then ['\\', 'r']
  else if n = 0x9 then ['\\', 't']
  else if n = 0x8 then ['\\', 'b']
  else if n = 0xc then ['\\', 'f']
  else if n < 0x10000 then escapedUnit n
  else escapedUnit (surrogates n).1 ++ escapedUnit (surrogates n).2

def writeSymbols {α : Type} [Symbol α] (cs : List α) : List Char :=
  '"' :: cs.flatMap (fun c => escapedCode (Symbol.code c)) ++ ['"']

def writeText (s : String) : List Char := writeSymbols s.toList

/-- Members of an object that are written already, with what separates them. -/
def joinMembers : List (String × List Char) → List Char
  | [] => []
  | [(k, v)] => writeText k ++ ':' :: ' ' :: v
  | (k, v) :: m :: rest => writeText k ++ ':' :: ' ' :: v ++ ',' :: ' ' :: joinMembers (m :: rest)

def writeObject (members : List (String × List Char)) : List Char :=
  '\x7b' :: joinMembers members ++ ['\x7d']

mutual

def write : Value → List Char
  | .null => "null".toList
  | .bool true => "true".toList
  | .bool false => "false".toList
  | .int n => (toString n).toList
  | .real x => (x.text "Infinity" "NaN").toList
  | .str s => writeText s
  | .arr items => '[' :: writeItems items ++ [']']
  | .obj fields => writeObject (writeFields fields)

def writeItems : List Value → List Char
  | [] => []
  | [v] => write v
  | v :: w :: rest => write v ++ ',' :: ' ' :: writeItems (w :: rest)

/-- The members of an object, each with its value written. -/
def writeFields : List (String × Value) → List (String × List Char)
  | [] => []
  | (k, v) :: rest => (k, write v) :: writeFields rest

end

def render (v : Value) : String := String.ofList (write v)

end MonitoringUpkeep.Json
