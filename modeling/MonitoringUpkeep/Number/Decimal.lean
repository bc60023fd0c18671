import MonitoringUpkeep.Number.Binary64

/-!
# Decimal text of numbers

Three ways to write a number: with a fixed number of places, with a fixed number of significant
digits, and with the fewest digits that identify it among the numbers of the 64-bit format.

All digits are chosen by exact arithmetic on rationals; a half goes to the even neighbour.
-/

namespace MonitoringUpkeep.Decimal

open Rounding

/-- The digits of a natural number, most significant first. -/
def digits (n : Nat) : List Char := Nat.toDigits 10 n

/-- The digits of a natural number, with zeros in front up to a width. -/
def padded (width n : Nat) : List Char :=
  let ds := digits n
  List.replicate (width - ds.length) '0' ++ ds

/-- The exponent `k` with `10 ^ k ≤ q < 10 ^ (k + 1)`, for a positive `q`. -/
def floorLog10 (q : Rat) : Int :=
  if 1 ≤ q then ((digits q.floor.toNat).length : Int) - 1
  else
    let inverse := 1 / q
    let places : Int := (digits inverse.floor.toNat).length
    if inverse = pow10 (places - 1) then 1 - places else -places

/-- No number of the 64-bit format has more significant digits than this, or more places after the
    point. -/
def mostDigits : Nat := 1074

/-- Zeros for the places beyond those that a number can have. -/
def zerosBeyond (places : Nat) : List Char := List.replicate (places - mostDigits) '0'

/-- A magnitude of the format with a fixed number of places after the point. -/
def fixedMagnitude (places : Nat) (q : Rat) : List Char :=
  let exactly := min places mostDigits
  let scaled := (halfEven (q * pow10 exactly)).toNat
  let ds := padded (exactly + 1) scaled
  let whole := ds.take (ds.length - exactly)
  if places = 0 then whole
  else whole ++ '.' :: ds.drop (ds.length - exactly) ++ zerosBeyond places

/-- A magnitude rounded to a number of significant digits: the digits, as a number, and the
    exponent of the first of them. -/
def significant (count : Nat) (q : Rat) : Nat × Int :=
  if q = 0 then (0, 0)
  else
    let k := floorLog10 q
    let n := (halfEven (q / pow10 (k - (count : Int) + 1))).toNat
    if n = Nat.pow 10 count then (Nat.pow 10 (count - 1), k + 1) else (n, k)

/-- Drops the zeros at the end of a fraction, and the point when no digit is left behind it. -/
def trimFraction (cs : List Char) : List Char :=
  if cs.contains '.' then
    let kept := (cs.reverse.dropWhile (· == '0'))
    (match kept with
      | '.' :: r => r
      | r => r).reverse
  else cs

/-- A decimal exponent: a sign and at least two digits. -/
def exponentMark (marker : Char) (k : Int) : List Char :=
  marker :: (if k < 0 then '-' else '+') :: padded 2 k.natAbs

def pointed : List Char → List Char
  | [] => []
  | [d] => [d]
  | d :: ds => d :: '.' :: ds

/-- A magnitude of the format in scientific notation with a fixed number of places. -/
def scientificMagnitude (marker : Char) (places : Nat) (q : Rat) : List Char :=
  let exactly := min places mostDigits
  let (n, k) := significant (exactly + 1) q
  pointed (padded (exactly + 1) n ++ zerosBeyond places) ++ exponentMark marker k

/-- A magnitude of the format in general notation: scientific when its exponent is below `-4` or not
    below the number of significant digits, positional otherwise. -/
def generalMagnitude (marker : Char) (keepZeros : Bool) (count : Nat) (q : Rat) : List Char :=
  let count := if keepZeros then max count 1 else min (max count 1) (mostDigits + 1)
  let k := (significant (min count (mostDigits + 1)) q).2
  let tidy := if keepZeros then id else trimFraction
  if k < -4 ∨ (count : Int) ≤ k then
    let text := scientificMagnitude marker (count - 1) q
    tidy (text.takeWhile (· != marker)) ++ text.dropWhile (· != marker)
  else tidy (fixedMagnitude ((count : Int) - 1 - k).toNat q)

def signed (text : Rat → List Char) (q : Rat) : String :=
  if q < 0 then String.ofList ('-' :: text (-q)) else String.ofList (text q)

/-- The reals that round to a positive number of the 64-bit format: the two ends of their
    interval, and whether the ends belong to it. -/
def roundingInterval (q : Rat) : Rat × Rat × Bool :=
  let e := lastBit q
  let m := (q / pow2 e).floor
  let half := pow2 (e - 1)
  let below := if m = Nat.pow 2 52 ∧ -1074 < e then pow2 (e - 2) else half
  (q - below, q + half, m % 2 == 0)

/-- Whether a decimal reads back as the number whose rounding interval is given. -/
def readsBack (interval : Rat × Rat × Bool) (x : Rat) : Bool :=
  let (low, high, closed) := interval
  if closed then decide (low ≤ x ∧ x ≤ high) else decide (low < x ∧ x < high)

/-- The neighbour of `q` on the grid of multiples of `10 ^ k` that reads back; of two the nearer,
    of two equally near ones the even one. -/
def gridPoint? (interval : Rat × Rat × Bool) (q : Rat) (k : Int) : Option Nat :=
  let low := (q / pow10 k).floor.toNat
  let lowHits := readsBack interval ((low : Rat) * pow10 k)
  let highHits := readsBack interval (((low + 1 : Nat) : Rat) * pow10 k)
  if lowHits && highHits then some (halfEven (q / pow10 k)).toNat
  else if lowHits then some low
  else if highHits then some (low + 1)
  else none

/-- The first grid, from coarse to fine, on which a neighbour of `q` reads back. -/
def searchGrids (interval : Rat × Rat × Bool) (q : Rat) : Nat → Int → Option (Nat × Int)
  | 0, _ => none
  | n + 1, k =>
    match gridPoint? interval q k with
    | some d => some (d, k)
    | none => searchGrids interval q n (k - 1)

/-- The fewest digits that identify a positive number of the format, and the exponent of the
    first of them. -/
def shortestDigits (q : Rat) : List Char × Int :=
  let top := floorLog10 q
  match searchGrids (roundingInterval q) q 18 top with
  | some (n, k) =>
    let ds := digits n
    let kept := (ds.reverse.dropWhile (· == '0')).reverse
    (kept, k + (ds.length : Int) - 1)
  | none => (digits q.floor.toNat, top)

/-- Where digits are written positionally and how an exponent is marked elsewhere. -/
structure Layout where
  /-- the smallest exponent of the first digit that is written positionally -/
  lowest : Int
  /-- the first exponent that is no longer written positionally -/
  highest : Int
  /-- the letter before a written exponent -/
  marker : Char

/-- Numbers are written positionally from `10 ^ -4` up to below `10 ^ 16`. -/
def naturalLayout : Layout := ⟨-4, 16, 'e'⟩

/-- Lays out digits whose first one has the exponent `k`. -/
def Layout.place (style : Layout) (ds : List Char) (k : Int) : List Char :=
  if k < style.lowest ∨ style.highest ≤ k then pointed ds ++ exponentMark style.marker k
  else if k < 0 then '0' :: '.' :: (List.replicate (-k - 1).toNat '0' ++ ds)
  else
    let whole := (k + 1).toNat
    if ds.length ≤ whole then ds ++ List.replicate (whole - ds.length) '0' ++ ['.', '0']
    else ds.take whole ++ '.' :: ds.drop whole

/-- A finite number with the fewest digits that identify it. -/
def shortest (q : Rat) : String :=
  if q = 0 then "0.0"
  else
    signed (fun m => let (ds, k) := shortestDigits m; naturalLayout.place ds k) q

end MonitoringUpkeep.Decimal

namespace MonitoringUpkeep.Binary64

def isNegative : Binary64 → Bool
  | .finite q => decide (q < 0)
  | .negativeZero => true
  | .infinite negative => negative
  | .notANumber => false

/-- A number with its magnitude written in a given way; `infinity` and `nothing` are the words for
    an infinite one and for what is no number. -/
def write (infinity nothing : String) (text : Rat → List Char) (x : Binary64) : String :=
  let magnitude := match x with
    | .finite q => text (if q < 0 then -q else q)
    | .negativeZero => text 0
    | .infinite _ => infinity.toList
    | .notANumber => nothing.toList
  String.ofList (if x.isNegative then '-' :: magnitude else magnitude)

def fixed (places : Nat) (x : Binary64) : String :=
  x.write "inf" "nan" (Decimal.fixedMagnitude places)

/-- A number with six significant digits, zeros at the end dropped. -/
def general (x : Binary64) : String :=
  x.write "inf" "nan" (Decimal.generalMagnitude 'e' false 6)

/-- A number with the fewest digits that identify it. -/
def text (infinity nothing : String) (x : Binary64) : String :=
  x.write infinity nothing fun q => (Decimal.shortest q).toList

end MonitoringUpkeep.Binary64
