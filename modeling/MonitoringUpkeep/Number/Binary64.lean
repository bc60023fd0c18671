/-!
# Numbers of the 64-bit binary format

A number of the format is kept as the exact rational it stands for, so that all arithmetic on it
is exact and a result is rounded in one named place, `nearest`. Sums and products take their
rounding as an argument: `Binary64.ofRat` is that of the format, and `Binary64.finite` rounds
nothing.

The values that no rational can stand for, the negative zero, the infinities and what is no number
at all, have constructors of their own in `Binary64`.
-/

namespace MonitoringUpkeep

namespace Rounding

def pow2 (e : Int) : Rat :=
  if 0 ≤ e then (Nat.pow 2 e.toNat : Rat) else mkRat 1 (Nat.pow 2 (-e).toNat)

def pow10 (e : Int) : Rat :=
  if 0 ≤ e then (Nat.pow 10 e.toNat : Rat) else mkRat 1 (Nat.pow 10 (-e).toNat)

/-- The integer nearest to a rational; of two equally near ones, the even one. -/
def halfEven (q : Rat) : Int :=
  let low := q.floor
  let rest := q - (low : Rat)
  if rest < mkRat 1 2 then low
  else if mkRat 1 2 < rest then low + 1
  else if low % 2 = 0 then low else low + 1

/-- The exponent `e` with `2 ^ e ≤ q < 2 ^ (e + 1)`, for a positive `q`. -/
def floorLog2 (q : Rat) : Int :=
  let guess : Int := (Nat.log2 q.num.natAbs : Int) - (Nat.log2 q.den : Int)
  if q < pow2 guess then guess - 1 else guess

/-- The exponent of the last bit that a positive number of the format has room for. -/
def lastBit (q : Rat) : Int :=
  max (floorLog2 q - 52) (-1074)

/-- The number of the 64-bit format nearest to a rational; a tie goes to the even significand.
    The range is taken as unbounded above. -/
def nearest (q : Rat) : Rat :=
  if q = 0 then 0
  else
    let e := lastBit (if q < 0 then -q else q)
    (halfEven (q / pow2 e) : Rat) * pow2 e

end Rounding

/-- A number of the 64-bit binary format. -/
inductive Binary64 where
  | finite (value : Rat)
  | negativeZero
  | infinite (negative : Bool)
  | notANumber
deriving DecidableEq

namespace Binary64

/-- The first power of two that the format cannot hold. -/
def limit : Rat := Rounding.pow2 1024

/-- The nearest number of the format, infinite beyond its range. -/
def ofRat (q : Rat) : Binary64 :=
  let r := Rounding.nearest q
  if limit ≤ r then .infinite false
  else if r ≤ -limit then .infinite true
  else .finite r

/-- The rational a number stands for; an infinite one has none. -/
def toRat? : Binary64 → Option Rat
  | .finite q => some q
  | .negativeZero => some 0
  | .infinite _ | .notANumber => none

def isZero (x : Binary64) : Bool := x.toRat? == some 0

def neg : Binary64 → Binary64
  | .finite q => if q = 0 then .negativeZero else .finite (-q)
  | .negativeZero => .finite 0
  | .infinite negative => .infinite !negative
  | .notANumber => .notANumber

/-- The sum of two numbers. A negative zero changes nothing, and the sum of two opposite infinities
    is no number. -/
def add (round : Rat → Binary64) : Binary64 → Binary64 → Binary64
  | .notANumber, _ | _, .notANumber => .notANumber
  | .infinite a, .infinite b => if a = b then .infinite a else .notANumber
  | .infinite a, _ | _, .infinite a => .infinite a
  | .negativeZero, x | x, .negativeZero => x
  | .finite a, .finite b => round (a + b)

def sub (round : Rat → Binary64) (x y : Binary64) : Binary64 := add round x y.neg

def scale (round : Rat → Binary64) (n : Nat) : Binary64 → Binary64
  | .finite q => round (n * q)
  | x => x

/-- Whether a number is below another one; what is no number is below nothing and above nothing. -/
def lt : Binary64 → Binary64 → Bool
  | .notANumber, _ | _, .notANumber => false
  | .infinite a, .infinite b => a && !b
  | .infinite a, _ => a
  | _, .infinite b => !b
  | x, y => decide (x.toRat?.getD 0 < y.toRat?.getD 0)

/-- Whether a number is below another one or equal to it. -/
def le : Binary64 → Binary64 → Bool
  | .notANumber, _ | _, .notANumber => false
  | x, y => !lt y x

end Binary64

end MonitoringUpkeep
