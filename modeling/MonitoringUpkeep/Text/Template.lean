import MonitoringUpkeep.Text.Symbol
import MonitoringUpkeep.Value.Access
import MonitoringUpkeep.Value.Amount

/-!
# Message templates

A message may be a template whose marks, each opened by a percent sign, are filled in from
arguments: one after the other, or by name from an object. A mark says how its argument is written
and how wide; the text is padded on the left unless the mark asks otherwise.
-/

namespace MonitoringUpkeep.Template

/-- A width or precision: absent, given, or taken from the arguments. -/
inductive Size where
  | absent
  | given (n : Nat)
  | argument

/-- How an argument is written. -/
structure Mark where
  /-- the name of the argument, for arguments taken from an object -/
  key : Option String
  flags : List Char
  width : Size
  precision : Size
  /-- the letter that says how the argument is written; none where the template ends before it -/
  conversion : Option Char
  /-- the position of the conversion in the template -/
  position : Nat

/-- A piece of a template. -/
inductive Piece where
  | literal (c : Char)
  | mark (m : Mark)
  /-- a mark whose name is never closed -/
  | openName

/-- Splits off the name in parentheses that opens a mark; parentheses inside it are balanced. -/
def spanKey : Nat → List Char → Option (List Char × List Char)
  | _, [] => none
  | depth, c :: rest =>
    if c = ')' then
      match depth with
      | 0 => some ([], rest)
      | d + 1 => (spanKey d rest).map fun (ks, r) => (c :: ks, r)
    else if c = '(' then (spanKey (depth + 1) rest).map fun (ks, r) => (c :: ks, r)
    else (spanKey depth rest).map fun (ks, r) => (c :: ks, r)

def spanSize : List Char → Size × List Char
  | '*' :: rest => (.argument, rest)
  | cs =>
    let ds := cs.takeWhile Char.isDigit
    if ds.isEmpty then (.absent, cs)
    else
      (.given (ds.foldl (fun n c => 10 * n + (c.toNat - '0'.toNat)) 0), cs.dropWhile Char.isDigit)

/-- Splits off a precision with its point; a point alone stands for zero. -/
def spanPrecision : List Char → Size × List Char
  | '.' :: rest =>
    match spanSize rest with
    | (.absent, rest) => (.given 0, rest)
    | sized => sized
  | cs => (.absent, cs)

/-- Reads a mark behind its percent sign; `length` is the length of the whole template. -/
def readMark (length : Nat) (key : Option String) (cs : List Char) : Mark × List Char :=
  let flags := cs.takeWhile ("-+ #0".toList.contains ·)
  let rest := cs.dropWhile ("-+ #0".toList.contains ·)
  let (width, rest) := spanSize rest
  let (precision, rest) := spanPrecision rest
  let rest := match rest with
    | c :: r => if c = 'h' ∨ c = 'l' ∨ c = 'L' then r else c :: r
    | [] => []
  (⟨key, flags, width, precision, rest.head?, length - rest.length⟩, rest.tail)

/-- Splits a template into pieces; two percent signs stand for one. The number of pieces is bounded
    by `fuel`. -/
def pieces (length : Nat) : Nat → List Char → List Piece
  | _, [] => []
  | 0, _ => []
  | fuel + 1, '%' :: '%' :: rest => .literal '%' :: pieces length fuel rest
  | fuel + 1, '%' :: '(' :: rest =>
    match spanKey 0 rest with
    | none => [.openName]
    | some (key, rest) =>
      let (m, rest) := readMark length (some (String.ofList key)) rest
      .mark m :: pieces length fuel rest
  | fuel + 1, '%' :: rest =>
    let (m, rest) := readMark length none rest
    .mark m :: pieces length fuel rest
  | fuel + 1, c :: rest => .literal c :: pieces length fuel rest

/-- The arguments of a template: in a row, or one object. -/
structure Arguments where
  /-- the arguments not yet used -/
  row : List Value
  /-- the object that names are looked up in -/
  object : Option Fields

/-- A single object with fields stands for its fields, anything else for itself. -/
def Arguments.ofList : List Value → Arguments
  | [.obj fs] => if fs.isEmpty then ⟨[.obj fs], none⟩ else ⟨[.obj fs], some fs⟩
  | vs => ⟨vs, none⟩

/-- A complaint about arguments that do not fit the template. -/
def misfit (complaint : String) : Failure := .misfit (.arguments complaint)

def malformed (complaint : String) : Failure := .fault .badValue complaint

def Arguments.next (a : Arguments) : Except Failure (Value × Arguments) :=
  match a.row with
  | [] => .error (misfit "not enough arguments for format string")
  | v :: rest => .ok (v, { a with row := rest })

/-- A width or a precision. -/
inductive Measure where
  | width
  | precision

def Measure.limit : Measure → Nat
  | .width => Nat.pow 2 63 - 1
  | .precision => Nat.pow 2 31 - 1

/-- The complaint about a measure in the template that is too large. -/
def Measure.tooBig : Measure → Failure
  | .width => malformed "width too big"
  | .precision => malformed "precision too big"

/-- The complaint about an argument that is no number in the range of a measure. -/
def Measure.overflow : Measure → Failure
  | .width => .overflow .width
  | .precision => .overflow .precision

/-- The value of a measure, if there is one, and the arguments that are left. -/
def Size.resolve (measure : Measure) (s : Size) (a : Arguments) :
    Except Failure (Option Int × Arguments) :=
  match s with
  | .absent => .ok (none, a)
  | .given n => if measure.limit < n then .error measure.tooBig else .ok (some n, a)
  | .argument => do
    match ← a.next with
    | (.int n, a) =>
      if (measure.limit : Int) < n ∨ n < -(measure.limit : Int) - 1 then throw measure.overflow
      else return (some n, a)
    | (.bool b, a) => return (some (if b then 1 else 0), a)
    | _ => throw (misfit "* wants int")

/-- The text of a number: its sign, the mark of its base, its digits. -/
structure NumberText where
  negative : Bool
  base : String := ""
  digits : List Char

def truncate (q : Rat) : Int := if q < 0 then -(-q).floor else q.floor

/-- The integer that a value is taken as where a whole number is asked for. -/
def whole : Binary64 → Except Failure Int
  | .finite q => .ok (truncate q)
  | .negativeZero => .ok 0
  | .infinite _ => .error (.overflow .integer)
  | .notANumber => .error (malformed "cannot convert float NaN to integer")

/-- The largest number of digits that an integer can be written with. -/
def digitLimit : Nat := Nat.pow 2 31 - 4

def textLimit : Nat := Nat.pow 2 30

def checkLength (size : Nat) : Except Failure Unit :=
  if textLimit ≤ size then .error .tooLong else .ok ()

def atLeast (n : Nat) (ds : List Char) : List Char := List.replicate (n - ds.length) '0' ++ ds

/-- Whether a conversion asks for an integer in some base. -/
def isIntegerConversion (c : Char) : Bool := "diuoxX".toList.contains c

/-- Whether a conversion asks for a number with a fraction. -/
def isFractionConversion (c : Char) : Bool := "eEfFgG".toList.contains c

/-- An integer as a mark with the conversion `c` asks for it. -/
def integerText (m : Mark) (c : Char) (precision : Nat) (v : Value) :
    Except Failure NumberText := do
  let wanted := if "oxX".toList.contains c then "an integer" else "a real number"
  let refused := misfit
    (s!"%" ++ String.singleton c ++ s!" format: {wanted} is required, not {v.typeName}")
  let n ← match v with
    | .real x => if "diu".toList.contains c then whole x else throw refused
    | v =>
      match v.integer? with
      | some n => pure n
      | none => throw refused
  if digitLimit < precision then throw (.overflow .digits)
  checkLength precision
  let radix := if c = 'o' then 8 else if c = 'x' ∨ c = 'X' then 16 else 10
  let ds := Nat.toDigits radix n.natAbs
  let ds := atLeast precision (if c = 'X' then ds.map Char.toUpper else ds)
  let base :=
    if !m.flags.contains '#' then ""
    else if c = 'o' then "0o" else if c = 'x' then "0x" else if c = 'X' then "0X" else ""
  return ⟨decide (n < 0), base, ds⟩

/-- Digits with a point behind the whole ones, where there is none yet. -/
def withPoint (ds : List Char) : List Char :=
  if ds.contains '.' then ds
  else ds.takeWhile Char.isDigit ++ '.' :: ds.dropWhile Char.isDigit

/-- The places of scientific notation for a precision. With the digit before the point, the largest
    precision is beyond what can be counted, and stands for none. -/
def scientificPlaces (precision : Nat) : Nat :=
  if Measure.limit .precision ≤ precision then 0 else precision

/-- The magnitude of a number as a mark with the conversion `c` asks for it. -/
def magnitudeText (m : Mark) (c : Char) (precision : Nat) (size : Rat) :
    Except Failure (List Char) := do
  let letter := if c.isUpper then 'E' else 'e'
  let point := m.flags.contains '#'
  let ds ← match c.toLower with
    | 'e' =>
      let places := scientificPlaces precision
      checkLength places
      pure (Decimal.scientificMagnitude letter places size)
    | 'g' =>
      if point then checkLength precision
      pure (Decimal.generalMagnitude letter point precision size)
    | _ =>
      checkLength precision
      pure (Decimal.fixedMagnitude precision size)
  return if point then withPoint ds else ds

/-- A number with a fraction as a mark with the conversion `c` asks for it. -/
def fractionText (m : Mark) (c : Char) (precision : Nat) (v : Value) :
    Except Failure NumberText := do
  let upper := c.isUpper
  let x ← match v.toReal Binary64.ofRat with
    | .error (.misfit _) => throw (misfit s!"must be real number, not {v.typeName}")
    | x => x
  let size ← match x with
    | .finite q => magnitudeText m c precision (if q < 0 then -q else q)
    | .negativeZero => magnitudeText m c precision 0
    | .infinite _ => pure (if upper then "INF" else "inf").toList
    | .notANumber => pure (if upper then "NAN" else "nan").toList
  return ⟨x.isNegative, "", size⟩

def pad (left : Bool) (width : Nat) (cs : List TextUnit) : List TextUnit :=
  let gap := List.replicate (width - cs.length) (TextUnit.char ' ')
  if left then cs ++ gap else gap ++ cs

/-- A number with its sign, padded with blanks, or with zeros behind the sign. -/
def placeNumber (m : Mark) (left : Bool) (width : Nat) (t : NumberText) : List TextUnit :=
  let sign :=
    if t.negative then ['-']
    else if m.flags.contains '+' then ['+']
    else if m.flags.contains ' ' then [' ']
    else []
  let front := sign ++ t.base.toList
  if m.flags.contains '0' && !left then
    (front ++ atLeast (width - front.length) t.digits).map .char
  else pad left width ((front ++ t.digits).map .char)

/-- The symbol that an argument stands for: that of a text, or the one with a given code. -/
def symbolOf (v : Value) : Except Failure (List TextUnit) :=
  match v with
  | .str s =>
    match s.toList with
    | [c] => .ok [.char c]
    | _ => .error (misfit "%c requires int or char")
  | v =>
    match v.integer? with
    | some n =>
      if 0 ≤ n ∧ n < 0x110000 then .ok [TextUnit.ofCode n.toNat] else .error (.overflow .character)
    | none => .error (misfit "%c requires int or char")

/-- The argument of a mark with the conversion `c` as text. -/
def convert (m : Mark) (c : Char) (left : Bool) (width : Nat) (precision : Option Nat) (v : Value) :
    Except Failure (List TextUnit) :=
  let cut := fun (s : String) =>
    let cs := s.toList.map TextUnit.char
    match precision with
    | some n => cs.take n
    | none => cs
  if c = 's' then .ok (pad left width (cut v.display))
  else if c = 'r' then .ok (pad left width (cut v.literal))
  else if c = 'a' then .ok (pad left width (cut (v.literalWith true)))
  else if isIntegerConversion c then
    (integerText m c (precision.getD 0) v).map (placeNumber m left width)
  else if isFractionConversion c then
    (fractionText m c (precision.getD 6) v).map (placeNumber m left width)
  else if c = 'c' then (symbolOf v).map (pad left width)
  else
    let shown := if 31 ≤ c.toNat ∧ c.toNat ≤ 126 then c else '?'
    .error (malformed
      ("unsupported format character '" ++ String.singleton shown ++ "' (0x"
        ++ String.ofList (Nat.toDigits 16 c.toNat) ++ s!") at index {m.position}"))

/-- The complaint about a name without an object to look it up in. -/
def noObject : Failure := misfit "format requires a mapping"

/-- The arguments for a mark: a name is looked up in the object, which takes the place of all
    others. -/
def Arguments.named (key : Option String) (a : Arguments) : Except Failure Arguments :=
  match key, a.object with
  | none, _ => .ok a
  | some _, none => .error noObject
  | some key, some fs =>
    match Fields.get? fs key with
    | some v => .ok { a with row := [v] }
    | none => .error (.missingKey key)

def fill (m : Mark) (a : Arguments) : Except Failure (List TextUnit × Arguments) := do
  let a ← a.named m.key
  let (width, a) ← m.width.resolve .width a
  let (precision, a) ← m.precision.resolve .precision a
  match m.conversion with
  | none => throw (malformed "incomplete format")
  | some c =>
    let (v, a) ← a.next
    let w := width.getD 0
    let width := if textLimit ≤ w.natAbs then 0 else w.natAbs
    let cs ← convert m c (m.flags.contains '-' || decide (w < 0)) width (precision.map Int.toNat) v
    checkLength w.natAbs
    return (cs, a)

def fillAll : List Piece → Arguments → Except Failure (List TextUnit)
  | [], a =>
    if a.row.isEmpty || a.object.isSome then .ok []
    else .error (misfit "not all arguments converted during string formatting")
  | .literal c :: rest, a => (fillAll rest a).map (.char c :: ·)
  | .openName :: _, a =>
    .error (if a.object.isSome then malformed "incomplete format key" else noObject)
  | .mark m :: rest, a => do
    let (cs, a) ← fill m a
    return cs ++ (← fillAll rest a)

/-- A template with its arguments filled in; without arguments it is no template but a text. -/
def render (template : String) (arguments : List Value) : Except Failure (List TextUnit) :=
  let cs := template.toList
  if arguments.isEmpty then .ok (cs.map .char)
  else fillAll (pieces cs.length cs.length cs) (Arguments.ofList arguments)

end MonitoringUpkeep.Template
