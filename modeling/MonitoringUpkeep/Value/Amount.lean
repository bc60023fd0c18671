import MonitoringUpkeep.Failure

/-!
# Values as numbers

Integers and truth values are compared exactly with numbers of the 64-bit format. In a sum an
integer is rounded first, and has to be in the range of the format.
-/

namespace MonitoringUpkeep.Value

def integer? : Value → Option Int
  | .int n => some n
  | .bool b => some (if b then 1 else 0)
  | _ => none

def exact (v : Value) : Except Failure Binary64 :=
  match v with
  | .real x => .ok x
  | v =>
    match v.integer? with
    | some n => .ok (.finite n)
    | none => .error (.misfit (.noOrder v.typeName))

def isBelow (a b : Value) : Except Failure Bool := do return (← a.exact).lt (← b.exact)

/-- Whether a number is below another one or equal to it. -/
def isAtMost (a b : Value) : Except Failure Bool := do return (← a.exact).le (← b.exact)

def realOfInt (round : Rat → Binary64) (n : Int) : Except Failure Binary64 :=
  match round n with
  | .infinite _ => .error (.overflow .binary)
  | x => .ok x

/-- The number that a value stands for in a sum with a number of the 64-bit format. -/
def toReal (round : Rat → Binary64) (v : Value) : Except Failure Binary64 :=
  match v with
  | .real x => .ok x
  | v =>
    match v.integer? with
    | some n => realOfInt round n
    | none => .error (.misfit (.noSum "float" v.typeName))

/-- The sum of two numbers: an integer when both are, else a number of the 64-bit format. -/
def plus (a b : Value) : Except Failure Value :=
  match a, b with
  | .real x, .real y => .ok (.real (x.add Binary64.ofRat y))
  | .real x, b => do return .real (x.add Binary64.ofRat (← b.toReal Binary64.ofRat))
  | a, .real y =>
    match a.integer? with
    | some m => do return .real ((← realOfInt Binary64.ofRat m).add Binary64.ofRat y)
    | none => .error (.misfit (.noSum a.typeName "float"))
  | a, b =>
    match a.integer?, b.integer? with
    | some m, some n => .ok (.int (m + n))
    | _, _ => .error (.misfit (.noSum a.typeName b.typeName))

end MonitoringUpkeep.Value
