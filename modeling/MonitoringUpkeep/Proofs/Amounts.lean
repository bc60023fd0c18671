import Mathlib.Data.Rat.Floor
import Mathlib.Tactic.Linarith
import MonitoringUpkeep.Poll
import MonitoringUpkeep.Proofs.Effects

/-!
# Exact amounts

The finite numbers among the values stand for rationals, and with nothing rounded the arithmetic of times
is that of the rationals: sums, differences and the order are the exact ones, and a poll pauses for the
smaller one of its interval and of the time that is left.
-/

namespace MonitoringUpkeep

namespace Binary64

variable {x y : Binary64} {a b : Rat}

theorem toRat?_neg (known : x.toRat? = some a) : x.neg.toRat? = some (-a) := by
  cases x with
  | finite q =>
    obtain rfl := Option.some.inj known
    by_cases zero : q = 0
    · subst zero
      rfl
    · rw [neg, if_neg zero]
      rfl
  | negativeZero =>
    obtain rfl := Option.some.inj known
    rfl
  | infinite negative => cases known
  | notANumber => cases known

theorem toRat?_add (left : x.toRat? = some a) (right : y.toRat? = some b) :
    (x.add .finite y).toRat? = some (a + b) := by
  cases x <;> cases left <;> cases y <;> cases right <;> simp [add, toRat?]

theorem toRat?_sub (left : x.toRat? = some a) (right : y.toRat? = some b) :
    (x.sub .finite y).toRat? = some (a - b) := by
  rw [sub_eq_add_neg]
  exact toRat?_add left (toRat?_neg right)

theorem lt_eq_decide (left : x.toRat? = some a) (right : y.toRat? = some b) :
    x.lt y = decide (a < b) := by
  cases x <;> cases left <;> cases y <;> cases right <;> rfl

theorem le_eq_decide (left : x.toRat? = some a) (right : y.toRat? = some b) :
    x.le y = decide (a ≤ b) := by
  have same : x.le y = !y.lt x := by
    cases x <;> cases left <;> cases y <;> cases right <;> rfl
  rw [same, lt_eq_decide right left, ← decide_not, decide_eq_decide]
  exact not_lt

end Binary64

namespace Value

/-- The rational that a finite number stands for. -/
def amount? (v : Value) : Option Rat := v.exact.toOption.bind Binary64.toRat?

/-- The rational that a finite number stands for, and nothing for all other values. -/
def amount (v : Value) : Rat := v.amount?.getD 0

variable {v : Value} {a : Rat}

theorem amount_of_some (known : v.amount? = some a) : v.amount = a := by
  rw [amount, known]
  rfl

theorem exists_exact (known : v.amount? = some a) : ∃ x, v.exact = .ok x ∧ x.toRat? = some a := by
  cases exact : v.exact with
  | ok x => exact ⟨x, rfl, by rwa [amount?, exact] at known⟩
  | error f =>
    rw [amount?, exact] at known
    cases known

/-- In a sum of exact numbers a finite number stands for its amount. -/
theorem exists_toReal (known : v.amount? = some a) :
    ∃ x, v.toReal .finite = .ok x ∧ x.toRat? = some a := by
  cases v with
  | real x => exact ⟨x, rfl, known⟩
  | int n => exact ⟨.finite n, rfl, known⟩
  | bool b => exact ⟨.finite (if b then 1 else 0 : Int), rfl, known⟩
  | _ => cases known

end Value

/-- A poll pauses for its interval, or for the time that is left if that is less. -/
theorem Poll.exists_pause {interval : Value} {remaining : Binary64} {i r : Rat}
    (pace : interval.amount? = some i) (left : remaining.toRat? = some r) :
    ∃ seconds, pause interval remaining = .ok seconds ∧ seconds.amount? = some (min i r) := by
  obtain ⟨x, exact, known⟩ := Value.exists_exact pace
  have below : (Value.real remaining).isBelow interval = .ok (decide (r < i)) := by
    rw [← Binary64.lt_eq_decide left known, Value.isBelow, exact]
    rfl
  rw [pause, below]
  by_cases short : r < i
  · refine ⟨.real remaining, by simp [short], ?_⟩
    rw [min_eq_right short.le]
    exact left
  · refine ⟨interval, by simp [short], ?_⟩
    rw [min_eq_left (not_lt.mp short)]
    exact pace

namespace Trace

/-- The seconds for which waits are requested, all together. -/
def waited (t : Trace) : Rat := (t.waits.map Value.amount).sum

@[simp] theorem waited_append (t u : Trace) : waited (t ++ u) = waited t + waited u := by
  simp [waited]

@[simp] theorem waited_effects (t : Trace) : waited (effects t) = waited t := by
  rw [waited, waits_effects, waited]

theorem waited_wait (seconds : Value) : waited [.wait seconds] = seconds.amount := by
  simp [waited, waits]

end Trace

/-- A world that is a clock: it counts the seconds that passed, which waits alone let pass, as many as are
    requested, rounded up. Nothing is stored in it, and the stop token is never set. -/
def Environment.clockwork (rounds : Nat) : Environment Nat where
  reply _ n := (.error (.api (.int 503) "Unavailable" .null "(503)\nReason: Unavailable\n"), n)
  deliver _ _ n := (.ok (), n)
  now n := (.finite n, n)
  wait seconds n := (.ok false, n + seconds.amount.ceil.toNat)
  stopped _ := false
  draw n := (.real (.finite 0), n)
  rounds := rounds

end MonitoringUpkeep
