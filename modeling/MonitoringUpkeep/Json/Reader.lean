import MonitoringUpkeep.Text.Hex
import MonitoringUpkeep.Value.Basic

/-!
# Reading JSON text

The reader accepts the JSON grammar, and three words for numbers that it has no digits for:
`Infinity`, `-Infinity` and `NaN`. A number without fraction and exponent is an integer of any size,
any other number is rounded to the 64-bit format. Of several members of one name the last
value counts, in the place of the first.
-/

namespace MonitoringUpkeep.Json

def skipBlanks : List Char → List Char
  | c :: rest => if c = ' ' ∨ c = '\n' ∨ c = '\r' ∨ c = '\t' then skipBlanks rest else c :: rest
  | [] => []

/-- The number that four hexadecimal digits stand for. -/
def unit? (a b c d : Char) : Option Nat := do
  let a ← Text.hexValue? a
  let b ← Text.hexValue? b
  let c ← Text.hexValue? c
  let d ← Text.hexValue? d
  return ((a * 16 + b) * 16 + c) * 16 + d

def isHigh (n : Nat) : Bool := 0xd800 ≤ n && n < 0xdc00

def isLow (n : Nat) : Bool := 0xdc00 ≤ n && n < 0xe000

/-- The character after a backslash, other than a unit. -/
def shortEscape? : Char → Option Char
  | '"' => some '"'
  | '\\' => some '\\'
  | '/' => some '/'
  | 'b' => some '\x08'
  | 'f' => some '\x0c'
  | 'n' => some '\n'
  | 'r' => some '\r'
  | 't' => some '\t'
  | _ => none

/-- Reads a string behind its opening quotation mark: its characters and escaped units, as
    numbers, and what follows it. -/
def readUnits : List Char → Option (List Nat × List Char)
  | '"' :: rest => some ([], rest)
  | '\\' :: 'u' :: a :: b :: c :: d :: rest => do
    let n ← unit? a b c d
    let (ns, rest) ← readUnits rest
    return (n :: ns, rest)
  | '\\' :: c :: rest => do
    let c ← shortEscape? c
    let (ns, rest) ← readUnits rest
    return (c.toNat :: ns, rest)
  | c :: rest => do
    if c.toNat < 0x20 ∨ c = '\\' then none
    else
      let (ns, rest) ← readUnits rest
      return (c.toNat :: ns, rest)
  | [] => none

/-- Joins the pairs of units; a unit of a pair that stands alone is no text. -/
def joinUnits : List Nat → Option (List Char)
  | [] => some []
  | [n] => if isHigh n || isLow n then none else some [Char.ofNat n]
  | high :: low :: rest =>
    if isHigh high then
      if isLow low then
        (joinUnits rest).map
          (Char.ofNat (0x10000 + (high - 0xd800) * 0x400 + (low - 0xdc00)) :: ·)
      else none
    else if isLow high then none
    else (joinUnits (low :: rest)).map (Char.ofNat high :: ·)

/-- Reads a string behind its opening quotation mark: its characters, and what follows it. -/
def readText (cs : List Char) : Option (List Char × List Char) := do
  let (ns, rest) ← readUnits cs
  let text ← joinUnits ns
  return (text, rest)

def natOf (ds : List Char) : Nat := ds.foldl (fun n c => 10 * n + (c.toNat - '0'.toNat)) 0

def spanDigits (cs : List Char) : List Char × List Char :=
  (cs.takeWhile Char.isDigit, cs.dropWhile Char.isDigit)

/-- Reads the fraction of a number, if there is one: its digits. -/
def readFraction : List Char → Option (List Char × List Char)
  | '.' :: rest =>
    match spanDigits rest with
    | ([], _) => none
    | (ds, rest) => some (ds, rest)
  | rest => some ([], rest)

/-- Reads the exponent of a number, if there is one. -/
def readExponent : List Char → Option (Option Int × List Char)
  | c :: rest =>
    if c = 'e' ∨ c = 'E' then
      let (negative, rest) := match rest with
        | '-' :: r => (true, r)
        | '+' :: r => (false, r)
        | r => (false, r)
      match spanDigits rest with
      | ([], _) => none
      | (ds, rest) => some (some (if negative then -(natOf ds : Int) else natOf ds), rest)
    else some (none, c :: rest)
  | [] => some (none, [])

def numberOf (negative : Bool) (whole fraction : List Char) (exponent : Option Int) : Value :=
  if fraction.isEmpty && exponent.isNone then
    .int (if negative then -(natOf whole : Int) else natOf whole)
  else
    let n := natOf (whole ++ fraction)
    let q := (n : Rat) * Rounding.pow10 (exponent.getD 0 - fraction.length)
    if negative && Rounding.nearest q == 0 then .real .negativeZero
    else Value.ofRat (if negative then -q else q)

def readMagnitude (negative : Bool) (cs : List Char) : Option (Value × List Char) := do
  let (whole, rest) := spanDigits cs
  if whole.isEmpty || (whole.length > 1 && whole.head? == some '0') then none
  else
    let (fraction, rest) ← readFraction rest
    let (exponent, rest) ← readExponent rest
    return (numberOf negative whole fraction exponent, rest)

def dropText : List Char → List Char → Option (List Char)
  | [], cs => some cs
  | _ :: _, [] => none
  | w :: ws, c :: cs => if c = w then dropText ws cs else none

def readNumber : List Char → Option (Value × List Char)
  | '-' :: rest =>
    match dropText "Infinity".toList rest with
    | some rest => some (.real (.infinite true), rest)
    | none => readMagnitude true rest
  | cs =>
    match dropText "Infinity".toList cs, dropText "NaN".toList cs with
    | some rest, _ => some (.real (.infinite false), rest)
    | _, some rest => some (.real .notANumber, rest)
    | none, none => readMagnitude false cs

/-- The members in the order of their first writing, each with its last value. -/
def membersOf (members : List (String × Value)) : Fields :=
  members.foldl (fun fs m => Fields.put fs m.1 m.2) []

mutual

/-- Reads a value of at most the given depth and length. -/
def readValue : Nat → List Char → Option (Value × List Char)
  | 0, _ => none
  | n + 1, cs =>
    match skipBlanks cs with
    | 'n' :: 'u' :: 'l' :: 'l' :: rest => some (.null, rest)
    | 't' :: 'r' :: 'u' :: 'e' :: rest => some (.bool true, rest)
    | 'f' :: 'a' :: 'l' :: 's' :: 'e' :: rest => some (.bool false, rest)
    | '"' :: rest => do
      let (s, rest) ← readText rest
      return (.str (String.ofList s), rest)
    | '[' :: rest =>
      match skipBlanks rest with
      | ']' :: rest => some (.arr [], rest)
      | rest => do
        let (items, rest) ← readItems n rest
        return (.arr items, rest)
    | '\x7b' :: rest =>
      match skipBlanks rest with
      | '\x7d' :: rest => some (.obj [], rest)
      | rest => do
        let (members, rest) ← readMembers n rest
        return (.obj (membersOf members), rest)
    | rest => readNumber rest

/-- Reads the items of an array and its closing bracket. -/
def readItems : Nat → List Char → Option (List Value × List Char)
  | 0, _ => none
  | n + 1, cs => do
    let (v, rest) ← readValue n cs
    match skipBlanks rest with
    | ']' :: rest => return ([v], rest)
    | ',' :: rest =>
      let (vs, rest) ← readItems n rest
      return (v :: vs, rest)
    | _ => none

/-- Reads the members of an object and its closing brace. -/
def readMembers : Nat → List Char → Option (List (String × Value) × List Char)
  | 0, _ => none
  | n + 1, cs => do
    match skipBlanks cs with
    | '"' :: rest =>
      let (k, rest) ← readText rest
      match skipBlanks rest with
      | ':' :: rest =>
        let (v, rest) ← readValue n rest
        match skipBlanks rest with
        | '\x7d' :: rest => return ([(String.ofList k, v)], rest)
        | ',' :: rest =>
          let (ms, rest) ← readMembers n rest
          return ((String.ofList k, v) :: ms, rest)
        | _ => none
      | _ => none
    | _ => none

end

def parse? (s : String) : Option Value :=
  let cs := s.toList
  match readValue (cs.length + 1) cs with
  | some (v, rest) => if (skipBlanks rest).isEmpty then some v else none
  | none => none

end MonitoringUpkeep.Json
