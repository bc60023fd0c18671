import Mathlib.Algebra.Order.Floor.Semiring
import MonitoringUpkeep.Proofs.Amounts
import MonitoringUpkeep.Proofs.Looks

/-!
# The time of a poll

A poll counts nothing: it ends because the clock comes closer to the deadline. With exact times, each rest
after a look takes the whole interval off the time that is left, or all of it. So the looks are at most one
more than the intervals that fit into the time, rounded up, and the waits that are requested fit into the
time together, even where the looks themselves take time.
-/

namespace MonitoringUpkeep

/-- The clock of an environment tells exact times that never go back, and each wait that is not cancelled
    lets at least its seconds pass. -/
structure Environment.Timed {ω : Type} (env : Environment ω) (time : ω → Rat) : Prop where
  exact : env.round = .finite
  read : ∀ w, ∃ t, (env.now w).1.toRat? = some t ∧ time w ≤ t ∧ t ≤ time (env.now w).2
  passes : ∀ seconds w next, env.wait seconds w = (.ok false, next) →
    time w + seconds.amount ≤ time next

namespace Poll

/-- The number of rests of an interval for which there is time, where the last one can be cut short. -/
def rests (interval left : Rat) : Nat := ⌈max 0 left / interval⌉₊

variable {i left after : Rat}

theorem rests_mono (positive : 0 < i) (less : after ≤ left) : rests i after ≤ rests i left :=
  Nat.ceil_le_ceil (div_le_div_of_nonneg_right (max_le_max_left 0 less) positive.le)

/-- A rest takes one off the number of rests: an interval off the time that is left, or all of it. -/
theorem rests_after (positive : 0 < i) (some : 0 < left) (less : after ≤ left - min i left) :
    rests i after + 1 ≤ rests i left := by
  rcases le_or_gt i left with whole | short
  · rw [min_eq_left whole] at less
    have fits : 0 ≤ left - i := sub_nonneg.mpr whole
    have split : max 0 left / i = max 0 (left - i) / i + 1 := by
      rw [max_eq_right some.le, max_eq_right fits, sub_div, div_self positive.ne', sub_add_cancel]
    calc rests i after + 1 ≤ rests i (left - i) + 1 := Nat.add_le_add_right (rests_mono positive less) 1
      _ = rests i left := by
        rw [rests, rests, split, Nat.ceil_add_one (div_nonneg (le_max_left ..) positive.le)]
  · rw [min_eq_right short.le, sub_self] at less
    have used : rests i after = 0 := by rw [rests, max_eq_left less, zero_div, Nat.ceil_zero]
    rw [used, Nat.zero_add]
    exact Nat.ceil_pos.mpr (div_pos (lt_max_of_lt_right some) positive)

variable {ω : Type} {env : Environment ω} {time : ω → Rat} {p : Poll} {condition : Action ω Bool}
  {started deadline : Binary64} {n : Nat} {last : Option Failure} {w w' : ω} {looks : List ω}
  {ending : Ending Binary64} {t : Trace} {D : Rat}

section
variable (timed : env.Timed time) (pace : p.interval.amount? = some i)
  (ahead : deadline.toRat? = some D)
include timed pace ahead

/-- A pause before the deadline is the interval or the time that is left. -/
theorem amount_of_pause {now : Binary64} {seconds : Value} (read : env.now w = (now, w'))
    (early : deadline.le now = false)
    (paused : pause p.interval (deadline.sub env.round now) = .ok seconds) :
    ∃ left, 0 < left ∧ left ≤ D - time w ∧ D - left ≤ time w' ∧ seconds.amount = min i left := by
  obtain ⟨t, known, before, later⟩ := timed.read w
  rw [read] at known later
  rw [Binary64.le_eq_decide ahead known, decide_eq_false_iff_not, not_le] at early
  obtain ⟨_, known, amount⟩ := exists_pause pace (Binary64.toRat?_sub ahead known)
  rw [timed.exact, known] at paused
  obtain rfl := Except.ok.inj paused
  refine ⟨D - t, by linarith, by linarith, by linarith, Value.amount_of_some amount⟩

/-- A rest requests a wait of the interval or of the time that is left, if any; after a whole one so much
    less is left. -/
theorem Rests.paced {halt : Option Failure} {u : Trace}
    (rested : Rests env p deadline last w halt u w') : (halt ≠ none ∧ u.waited = 0) ∨
      ∃ left, 0 < left ∧ left ≤ D - time w ∧ u.waited = min i left ∧
        (halt = none → D - time w' ≤ left - min i left) := by
  match rested with
  | .late .. | .unpaused .. => exact .inl ⟨nofun, rfl⟩
  | .broken read early paused _ | .stopped read early paused _ =>
    obtain ⟨left, some, within, -, amount⟩ := amount_of_pause timed pace ahead read early paused
    exact .inr ⟨left, some, within, (Trace.waited_wait _).trans amount, nofun⟩
  | .over read early paused waited =>
    obtain ⟨left, some, within, reached, amount⟩ :=
      amount_of_pause timed pace ahead read early paused
    have passed := timed.passes _ _ _ waited
    rw [amount] at passed
    refine .inr ⟨left, some, within, (Trace.waited_wait _).trans amount, fun _ => ?_⟩
    linarith

theorem Rests.waited_le {halt : Option Failure} {u : Trace}
    (rested : Rests env p deadline last w halt u w') : u.waited ≤ max 0 (D - time w) := by
  rcases rested.paced timed pace ahead with ⟨-, none⟩ | ⟨left, -, within, waited, -⟩
  · rw [none]
    exact le_max_left ..
  · rw [waited]
    exact (min_le_right i left).trans (within.trans (le_max_right ..))

variable (positive : 0 < i)
include positive

/-- A rest that is over leaves time for one rest less, and for waits that are less by its own. -/
theorem Rests.spends {u : Trace} (rested : Rests env p deadline last w none u w') :
    rests i (D - time w') + 1 ≤ rests i (D - time w) ∧
      u.waited + max 0 (D - time w') ≤ max 0 (D - time w) := by
  rcases rested.paced timed pace ahead with ⟨halts, -⟩ | ⟨left, some, within, waited, after⟩
  · exact absurd rfl halts
  · have remains := after rfl
    have cut : min i left ≤ left := min_le_right i left
    refine ⟨(rests_after positive some remains).trans (rests_mono positive within), ?_⟩
    have fits : u.waited + max 0 (D - time w') ≤ left := by
      rw [waited, ← le_sub_iff_add_le']
      exact max_le (sub_nonneg.mpr cut) remains
    exact fits.trans (within.trans (le_max_right ..))

variable (steady : ∀ w, time w ≤ time (condition w).world)
include steady

/-- A look and a rest that is over leave time for one rest less, and for waits that are less. -/
theorem Rests.spends_after {found : Ending Bool} {t u : Trace} {v : ω}
    (rested : Rests env p deadline last w none u w') (looked : condition v = ⟨found, t, w⟩) :
    rests i (D - time w') + 1 ≤ rests i (D - time v) ∧
      u.waited + max 0 (D - time w') ≤ max 0 (D - time v) := by
  have passed := steady v
  rw [looked] at passed
  have less : D - time w ≤ D - time v := sub_le_sub_left passed D
  obtain ⟨fewer, within⟩ := rested.spends timed pace ahead positive
  exact ⟨fewer.trans (rests_mono positive less), within.trans (max_le_max_left 0 less)⟩

namespace Looks

/-- The looks of a poll are at most one more than the rests for which there is time. -/
theorem length_le (run : Looks env p condition started deadline n last w looks ending t w') :
    looks.length ≤ rests i (D - time w) + 1 := by
  induction run with
  | cut | cancelled => exact Nat.zero_le _
  | held | failed | endless | halted => exact Nat.le_add_left ..
  | again free looked misses rested others ih =>
    exact Nat.succ_le_succ (ih.trans
      (rested.spends_after timed pace ahead positive steady looked).1)

/-- The waits that a poll requests fit into the time that is left, apart from those of its looks. -/
theorem waited_le (run : Looks env p condition started deadline n last w looks ending t w') :
    t.waited ≤ (looks.map fun v => (condition v).trace.waited).sum + max 0 (D - time w) := by
  induction run with
  | cut | cancelled => exact add_nonneg le_rfl (le_max_left ..)
  | held free looked | failed free looked | endless free looked =>
    simp [looked]
  | @halted _ _ v _ _ w₁ _ _ _ free looked misses rested =>
    have passed := steady v
    rw [looked] at passed
    have fits := rested.waited_le timed pace ahead
    have less : max 0 (D - time w₁) ≤ max 0 (D - time v) :=
      max_le_max_left 0 (sub_le_sub_left passed D)
    simp only [Trace.waited_append, Trace.waited_effects, List.map_cons, List.map_nil, List.sum_cons,
      List.sum_nil, looked]
    linarith
  | again free looked misses rested others ih =>
    have fits := (rested.spends_after timed pace ahead positive steady looked).2
    simp only [Trace.waited_append, Trace.waited_effects, List.map_cons, List.sum_cons, looked]
    linarith

/-- A poll that is followed for that many looks ends, if all of its looks do. -/
theorem ends (terminating : ∀ w, (condition w).ending ≠ .unfinished)
    (run : Looks env p condition started deadline n last w looks ending t w')
    (enough : rests i (D - time w) + 1 ≤ n) : ending ≠ .unfinished := by
  induction run with
  | cut => exact absurd enough (Nat.not_succ_le_zero _)
  | cancelled | held | failed | halted => nofun
  | @endless _ _ v _ _ free looked => exact absurd (by rw [looked]) (terminating v)
  | again free looked misses rested others ih =>
    have fewer := (rested.spends_after timed pace ahead positive steady looked).1
    exact ih (fewer.trans (Nat.le_of_succ_le_succ enough))

end Looks

end

/-- The interval and the timeout of a poll are exact numbers, and the interval is positive. -/
structure Paced (p : Poll) (i T : Rat) : Prop where
  interval : p.interval.amount? = some i
  positive : 0 < i
  timeout : p.timeout.amount? = some T

/-- How a poll with an interval and a timeout keeps to its time, by its looks. -/
structure Timely (env : Environment ω) (p : Poll) (condition : Action ω Bool) (i T : Rat) (w : ω)
    (looks : List ω) (x : Outcome ω Binary64) : Prop where
  /-- it looks in a row, from its reading of the clock to the deadline -/
  looked : ∃ timeout, p.timeout.toReal env.round = .ok timeout ∧
    Looks env p condition (env.now w).1 ((env.now w).1.add env.round timeout) env.rounds none
      (env.now w).2 looks x.ending x.trace.effects x.world
  /-- its looks are at most one more than the intervals that its timeout has room for, rounded up -/
  few : looks.length ≤ ⌈max 0 T / i⌉₊ + 1
  /-- the waits that it requests take at most its timeout, apart from those of its looks -/
  short : x.trace.waited ≤ (looks.map fun v => (condition v).trace.waited).sum + max 0 T
  /-- it ends if it is followed for that many looks, and each look ends -/
  ends : (∀ w, (condition w).ending ≠ .unfinished) → ⌈max 0 T / i⌉₊ + 1 ≤ env.rounds →
    x.ending ≠ .unfinished

theorem await_timely {T : Rat} (timed : env.Timed time) (paced : p.Paced i T)
    (steady : ∀ w, time w ≤ time (condition w).world) (w : ω) :
    ∃ looks, Timely env p condition i T w looks (p.await env condition w) := by
  obtain ⟨interval, positive, span⟩ := paced
  obtain ⟨timeout, bounded, known⟩ := Value.exists_toReal span
  obtain ⟨s, start, -, started⟩ := timed.read w
  rw [← timed.exact] at bounded
  have ahead : ((env.now w).1.add env.round timeout).toRat? = some (s + T) := by
    rw [timed.exact]
    exact Binary64.toRat?_add start known
  have within : s + T - time (env.now w).2 ≤ T := by linarith
  have fewer := rests_mono positive within
  obtain ⟨looks, run⟩ := p.rounds_looks env condition (env.now w).1
    ((env.now w).1.add env.round timeout) env.rounds none (env.now w).2
  rw [← await_rounds rfl bounded] at run
  refine ⟨looks, ⟨timeout, bounded, run⟩, ?_, ?_, fun terminating enough => ?_⟩
  · exact (run.length_le timed interval ahead positive steady).trans (Nat.succ_le_succ fewer)
  · have waited := run.waited_le timed interval ahead positive steady
    rw [Trace.waited_effects] at waited
    have less : max 0 (s + T - time (env.now w).2) ≤ max 0 T := max_le_max_left 0 within
    linarith
  · exact run.ends timed interval ahead positive steady terminating
      ((Nat.succ_le_succ fewer).trans enough)

end Poll

end MonitoringUpkeep
