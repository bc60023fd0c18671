/-!
# Classes of characters

A class is given by the code points at which membership changes, in ascending order: the first is
the first member, the second the first character after it that is no member, and so on.
-/

namespace MonitoringUpkeep

/-- A set of characters, as the ascending code points at which membership changes. -/
structure CharClass where
  bounds : List Nat

namespace CharClass

/-- Whether an odd number of bounds is at or below a code point. -/
def within : List Nat → Nat → Bool
  | [], _ => false
  | b :: bs, n => if n < b then false else !within bs n

def contains (k : CharClass) (c : Char) : Bool := within k.bounds c.toNat

end CharClass

end MonitoringUpkeep
