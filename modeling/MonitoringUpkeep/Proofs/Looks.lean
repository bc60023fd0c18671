import MonitoringUpkeep.Poll
import MonitoringUpkeep.Proofs.Effects

/-!
# Looks at a condition

A poll looks at its condition again and again. A look can find the condition to hold, miss it, or
fail for good; after a miss there is a rest, which can be the end as well. All that the rounds of a
poll do in any environment is said by `Looks`; the later theorems about polls are inductions over
looks.
-/

namespace MonitoringUpkeep

namespace Ending

/-- A look misses the condition: it does not hold, or a failure that may go away hides it. -/
def Misses : Ending Bool → Prop
  | .done holds => holds = false
  | .failed f => f.isRetryable = true
  | .unfinished => False

/-- The latest failure to look after a look that missed the condition. -/
def latest (last : Option Failure) : Ending Bool → Option Failure
  | .failed f => some f
  | _ => last

end Ending

namespace Poll

variable {ω : Type}

/-- The ways in which a rest after a miss can go: from a world, the failure that ends the poll, if
    any, what it does, and the world it leaves. -/
inductive Rests (env : Environment ω) (p : Poll) (deadline : Binary64) (last : Option Failure)
    (w : ω) : Option Failure → Trace → ω → Prop
  /-- the deadline has passed -/
  | late {now w₁} (read : env.now w = (now, w₁)) (passed : deadline.le now = true) :
      Rests env p deadline last w (some (.waitTimeout p.description p.timeout last)) [] w₁
  /-- there is no telling how long to rest -/
  | unpaused {now w₁ f} (read : env.now w = (now, w₁)) (early : deadline.le now = false)
      (fails : pause p.interval (deadline.sub env.round now) = .error f) :
      Rests env p deadline last w (some f) [] w₁
  /-- the wait fails -/
  | broken {now w₁ seconds f w₂} (read : env.now w = (now, w₁)) (early : deadline.le now = false)
      (paused : pause p.interval (deadline.sub env.round now) = .ok seconds)
      (waited : env.wait seconds w₁ = (.error f, w₂)) :
      Rests env p deadline last w (some f) [.wait seconds] w₂
  /-- the wait ends because the program is to stop -/
  | stopped {now w₁ seconds w₂} (read : env.now w = (now, w₁)) (early : deadline.le now = false)
      (paused : pause p.interval (deadline.sub env.round now) = .ok seconds)
      (waited : env.wait seconds w₁ = (.ok true, w₂)) :
      Rests env p deadline last w (some (.waitCancelled p.description)) [.wait seconds] w₂
  /-- the wait is over -/
  | over {now w₁ seconds w₂} (read : env.now w = (now, w₁)) (early : deadline.le now = false)
      (paused : pause p.interval (deadline.sub env.round now) = .ok seconds)
      (waited : env.wait seconds w₁ = (.ok false, w₂)) :
      Rests env p deadline last w none [.wait seconds] w₂

/-- The rounds of a poll from a world, with the latest failure to look: the worlds in which it looks,
    how it ends, what it does, and the world it leaves. -/
inductive Looks (env : Environment ω) (p : Poll) (condition : Action ω Bool)
    (started deadline : Binary64) :
    Nat → Option Failure → ω → List ω → Ending Binary64 → Trace → ω → Prop
  /-- the rounds are used up -/
  | cut {last w} : Looks env p condition started deadline 0 last w [] .unfinished [] w
  /-- the program is to stop -/
  | cancelled {n last w} (set : env.stopped w = true) :
      Looks env p condition started deadline (n + 1) last w []
        (.failed (.waitCancelled p.description)) [] w
  /-- the condition holds -/
  | held {n last w t w₁ now w₂} (free : env.stopped w = false)
      (looked : condition w = ⟨.done true, t, w₁⟩) (read : env.now w₁ = (now, w₂)) :
      Looks env p condition started deadline (n + 1) last w [w]
        (.done (now.sub env.round started)) t.effects w₂
  /-- the look fails for good -/
  | failed {n last w f t w₁} (free : env.stopped w = false)
      (looked : condition w = ⟨.failed f, t, w₁⟩) (final : f.isRetryable = false) :
      Looks env p condition started deadline (n + 1) last w [w] (.failed f) t.effects w₁
  /-- the look does not end -/
  | endless {n last w t w₁} (free : env.stopped w = false)
      (looked : condition w = ⟨.unfinished, t, w₁⟩) :
      Looks env p condition started deadline (n + 1) last w [w] .unfinished t.effects w₁
  /-- the condition is missed, and the rest ends the poll -/
  | halted {n last w found t w₁ f u w₂} (free : env.stopped w = false)
      (looked : condition w = ⟨found, t, w₁⟩) (misses : found.Misses)
      (rested : Rests env p deadline (found.latest last) w₁ (some f) u w₂) :
      Looks env p condition started deadline (n + 1) last w [w] (.failed f) (t.effects ++ u) w₂
  /-- the condition is missed, and after a rest there is another look -/
  | again {n last w found t w₁ u w₂ looks ending v w'} (free : env.stopped w = false)
      (looked : condition w = ⟨found, t, w₁⟩) (misses : found.Misses)
      (rested : Rests env p deadline (found.latest last) w₁ none u w₂)
      (others : Looks env p condition started deadline n (found.latest last) w₂ looks ending v w') :
      Looks env p condition started deadline (n + 1) last w (w :: looks) ending
        (t.effects ++ u ++ v) w'

variable {env : Environment ω} {p : Poll} {condition : Action ω Bool} {started deadline : Binary64}
  {last : Option Failure} {w w' : ω}

theorem Rests.effects {deadline : Binary64} {halt : Option Failure} {u : Trace}
    (rested : Rests env p deadline last w halt u w') : u.effects = u := by
  cases rested <;> rfl

/-- What a poll does after a miss is a rest and, if that is not the end, what comes then. -/
theorem waitOn_rests (env : Environment ω) (p : Poll) (deadline : Binary64) (last : Option Failure)
    (again : Action ω Binary64) (w : ω) : ∃ halt u w₁, Rests env p deadline last w halt u w₁ ∧
      p.waitOn env deadline last again w = match halt with
        | some f => ⟨.failed f, u, w₁⟩
        | none => ⟨(again w₁).ending, u ++ (again w₁).trace, (again w₁).world⟩ := by
  rcases read : env.now w with ⟨now, w₁⟩
  have clock := Environment.clock_done read
  cases passed : deadline.le now with
  | true =>
    refine ⟨_, _, _, .late read passed, ?_⟩
    rw [waitOn, Action.bind_done clock]
    simp only [passed, if_true]
    rfl
  | false =>
    cases paused : pause p.interval (deadline.sub env.round now) with
    | error f =>
      refine ⟨_, _, _, .unpaused read passed paused, ?_⟩
      rw [waitOn, Action.bind_done clock]
      simp only [passed, Bool.false_eq_true, if_false, paused]
      rfl
    | ok seconds =>
      rcases waited : env.wait seconds w₁ with ⟨answer, w₂⟩
      have known : (Action.ofExcept (pause p.interval (deadline.sub env.round now)) :
          Action ω Value) w₁ = ⟨.done seconds, [], w₁⟩ := by
        rw [paused]
        rfl
      have unfolded : p.waitOn env deadline last again w = (do
          if ← env.sleep seconds then Action.fail (.waitCancelled p.description) else again :
            Action ω Binary64) w₁ := by
        rw [waitOn, Action.bind_done clock]
        simp only [passed, Bool.false_eq_true, if_false]
        rw [Action.bind_done known]
        rfl
      cases answer with
      | error f =>
        refine ⟨_, _, _, .broken read passed paused waited, ?_⟩
        rw [unfolded, Action.bind_failed (Environment.sleep_failed waited)]
      | ok set =>
        rw [unfolded, Action.bind_done (Environment.sleep_done waited)]
        cases set with
        | true => exact ⟨_, _, _, .stopped read passed paused waited, rfl⟩
        | false => exact ⟨_, _, _, .over read passed paused waited, rfl⟩

/-- A round in which the condition is missed goes on as the rest does. -/
theorem rounds_missed (n : Nat) (last : Option Failure) {found : Ending Bool} {t : Trace}
    (free : env.stopped w = false) (looked : condition w = ⟨found, t, w'⟩)
    (misses : found.Misses) : ∃ records : Trace,
      records.effects = [] ∧ p.rounds env condition started deadline (n + 1) last w =
        let rest := p.waitOn env deadline (found.latest last)
          (p.rounds env condition started deadline n (found.latest last)) w'
        ⟨rest.ending, t ++ records ++ rest.trace, rest.world⟩ := by
  rw [rounds, Action.bind_done (Environment.isStopped_done free)]
  simp only [Bool.false_eq_true, if_false, List.nil_append]
  cases found with
  | unfinished => exact misses.elim
  | done holds =>
    obtain rfl : holds = false := misses
    rw [Action.bind_done (Action.attempt_done looked)]
    exact ⟨[], rfl, by rw [List.append_nil]; rfl⟩
  | failed f =>
    have retryable : f.isRetryable = true := misses
    rw [Action.bind_done (Action.attempt_failed looked)]
    simp only [retryable, if_true]
    rw [Action.bind_done (Action.log_apply _ _ _ _ w')]
    exact ⟨_, rfl, by rw [List.append_assoc]; rfl⟩

/-- A round in which the condition is not missed is the last. -/
theorem rounds_found (n : Nat) (last : Option Failure) {found : Ending Bool} {t : Trace}
    (free : env.stopped w = false) (looked : condition w = ⟨found, t, w'⟩)
    (decisive : ¬ found.Misses) : Looks env p condition started deadline (n + 1) last w [w]
      (p.rounds env condition started deadline (n + 1) last w).ending
      (p.rounds env condition started deadline (n + 1) last w).trace.effects
      (p.rounds env condition started deadline (n + 1) last w).world := by
  rw [rounds, Action.bind_done (Environment.isStopped_done free)]
  simp only [Bool.false_eq_true, if_false, List.nil_append]
  cases found with
  | unfinished =>
    rw [Action.bind_unfinished (Action.attempt_unfinished looked)]
    exact .endless free looked
  | done holds =>
    obtain rfl : holds = true := by simpa [Ending.Misses] using decisive
    rcases read : env.now w' with ⟨now, w₂⟩
    rw [Action.bind_done (Action.attempt_done looked)]
    dsimp only
    rw [Action.bind_done (Environment.clock_done read)]
    have held : Looks env p condition started deadline (n + 1) last w [w] _ _ _ :=
      .held free looked read
    simpa using held
  | failed f =>
    have final : f.isRetryable = false := by simpa [Ending.Misses] using decisive
    rw [Action.bind_done (Action.attempt_failed looked)]
    simp only [final, Bool.false_eq_true, if_false, Action.fail_apply, List.append_nil]
    exact .failed free looked final

/-- The rounds of a poll go in looks. -/
theorem rounds_looks (env : Environment ω) (p : Poll) (condition : Action ω Bool)
    (started deadline : Binary64) (n : Nat) (last : Option Failure) (w : ω) : ∃ looks,
      Looks env p condition started deadline n last w looks
        (p.rounds env condition started deadline n last w).ending
        (p.rounds env condition started deadline n last w).trace.effects
        (p.rounds env condition started deadline n last w).world := by
  induction n generalizing last w with
  | zero => exact ⟨[], .cut⟩
  | succ n ih =>
    cases free : env.stopped w with
    | true =>
      rw [rounds, Action.bind_done (Environment.isStopped_done free)]
      exact ⟨[], .cancelled free⟩
    | false =>
      rcases looked : condition w with ⟨found, t, w₁⟩
      by_cases misses : found.Misses
      · -- The rest decides whether there are more looks, to which the hypothesis applies.
        obtain ⟨records, silent, missed⟩ := rounds_missed n last free looked misses
        obtain ⟨halt, u, w₂, rested, waited⟩ := p.waitOn_rests env deadline (found.latest last)
          (rounds env p condition started deadline n (found.latest last)) w₁
        rw [missed, waited]
        cases halt with
        | some f =>
          dsimp only
          rw [Trace.effects_append, Trace.effects_append, silent, List.append_nil, rested.effects]
          exact ⟨[w], .halted free looked misses rested⟩
        | none =>
          obtain ⟨looks, others⟩ := ih (found.latest last) w₂
          dsimp only
          rw [Trace.effects_append, Trace.effects_append, Trace.effects_append, silent,
            List.append_nil, rested.effects, ← List.append_assoc]
          exact ⟨w :: looks, .again free looked misses rested others⟩
      · exact ⟨[w], rounds_found n last free looked misses⟩

/-- A poll with a deadline that can be told is its rounds. -/
theorem await_rounds {started timeout : Binary64} {w₁ : ω} (read : env.now w = (started, w₁))
    (bounded : p.timeout.toReal env.round = .ok timeout) : p.await env condition w =
      p.rounds env condition started (started.add env.round timeout) env.rounds none w₁ := by
  rw [await, Action.bind_done (Environment.clock_done read), bounded]
  rfl

/-- A poll goes in looks, unless it has no deadline that could be told. -/
theorem await_looks (env : Environment ω) (p : Poll) (condition : Action ω Bool) (w : ω) :
    (∃ f w₁, p.await env condition w = ⟨.failed f, [], w₁⟩) ∨
      ∃ started deadline w₁ looks, Looks env p condition started deadline env.rounds none w₁ looks
        (p.await env condition w).ending (p.await env condition w).trace.effects
        (p.await env condition w).world := by
  rcases read : env.now w with ⟨started, w₁⟩
  cases bounded : p.timeout.toReal env.round with
  | error f =>
    refine .inl ⟨f, w₁, ?_⟩
    rw [await, Action.bind_done (Environment.clock_done read), bounded]
    rfl
  | ok timeout =>
    rw [await_rounds read bounded]
    exact .inr ⟨started, _, w₁, p.rounds_looks env condition started _ env.rounds none w₁⟩

theorem Rests.calls {deadline : Binary64} {halt : Option Failure} {u : Trace}
    (rested : Rests env p deadline last w halt u w') : u.calls = [] := by
  cases rested <;> rfl

theorem getLast?_cons_of_some {v u : ω} {looks : List ω} (last : looks.getLast? = some u) :
    (v :: looks).getLast? = some u := by
  rw [List.getLast?_cons, last]
  rfl

namespace Looks

variable {n : Nat} {looks : List ω} {ending : Ending Binary64} {t : Trace}

/-- The calls of a poll are those of its looks. -/
theorem calls (run : Looks env p condition started deadline n last w looks ending t w') :
    t.calls = looks.flatMap fun v => (condition v).trace.calls := by
  induction run with
  | cut => rfl
  | cancelled => rfl
  | held free looked => simp [looked]
  | failed free looked => simp [looked]
  | endless free looked => simp [looked]
  | halted free looked misses rested => simp [looked, rested.calls]
  | again free looked misses rested others ih => simp [looked, rested.calls, ih]

/-- Without a look, a poll does nothing. -/
theorem nothing (run : Looks env p condition started deadline n last w [] ending t w') : t = [] := by
  cases run <;> rfl

/-- Only the last look does not miss the condition. -/
theorem missed (run : Looks env p condition started deadline n last w looks ending t w') :
    ∀ v ∈ looks.dropLast, (condition v).ending.Misses := by
  induction run with
  | cut | cancelled | held | failed | endless | halted => nofun
  | @again _ _ w _ _ _ _ _ looks _ _ _ free looked misses rested others ih =>
    cases looks with
    | nil => nofun
    | cons v rest =>
      rw [List.dropLast_cons_cons]
      exact List.forall_mem_cons.mpr ⟨by rw [looked]; exact misses, ih⟩

/-- A poll that ends well does so right after its last look, which found the condition to hold. -/
theorem returned (run : Looks env p condition started deadline n last w looks ending t w')
    {seconds : Binary64} (done : ending = .done seconds) : ∃ v now, looks.getLast? = some v ∧
      (condition v).ending = .done true ∧ env.now (condition v).world = (now, w') ∧
      seconds = now.sub env.round started := by
  induction run with
  | cut | cancelled | failed | endless | halted => cases done
  | @held _ _ v _ _ now _ free looked read =>
    cases done
    exact ⟨v, now, rfl, by rw [looked], by rw [looked]; exact read, rfl⟩
  | again free looked misses rested others ih =>
    obtain ⟨v, now, isLast, found⟩ := ih done
    exact ⟨v, now, getLast?_cons_of_some isLast, found⟩

theorem holds (run : Looks env p condition started deadline n last w looks ending t w')
    {seconds : Binary64} (done : ending = .done seconds) :
    ∃ v, looks.getLast? = some v ∧ (condition v).ending = .done true := by
  obtain ⟨v, -, isLast, found, -⟩ := run.returned done
  exact ⟨v, isLast, found⟩

/-- A poll that does not end well has not found the condition to hold. -/
theorem unheld (run : Looks env p condition started deadline n last w looks ending t w')
    (undone : ∀ seconds, ending ≠ .done seconds) : ∀ v ∈ looks, (condition v).ending ≠ .done true := by
  induction run with
  | cut | cancelled => nofun
  | held => exact absurd rfl (undone _)
  | failed free looked | endless free looked =>
    refine List.forall_mem_singleton.mpr ?_
    rw [looked]
    nofun
  | halted free looked misses =>
    refine List.forall_mem_singleton.mpr fun holds => ?_
    rw [looked] at holds
    dsimp only at holds
    subst holds
    cases misses
  | again free looked misses rested others ih =>
    refine List.forall_mem_cons.mpr ⟨fun holds => ?_, ih undone⟩
    rw [looked] at holds
    dsimp only at holds
    subst holds
    cases misses

/-- A look that fails for good is the last thing that a poll does, and fails the poll. -/
theorem passes (run : Looks env p condition started deadline n last w looks ending t w') {v : ω}
    (member : v ∈ looks) {f : Failure} (failed : (condition v).ending = .failed f)
    (final : f.isRetryable = false) :
    looks.getLast? = some v ∧ ending = .failed f ∧ w' = (condition v).world := by
  have decisive : ¬ (condition v).ending.Misses := by
    rw [failed]
    exact Bool.eq_false_iff.mp final
  induction run with
  | cut | cancelled => cases member
  | held free looked | endless free looked =>
    obtain rfl := List.mem_singleton.mp member
    rw [looked] at failed
    cases failed
  | failed free looked =>
    obtain rfl := List.mem_singleton.mp member
    rw [looked] at failed ⊢
    cases failed
    exact ⟨rfl, rfl, rfl⟩
  | halted free looked misses =>
    obtain rfl := List.mem_singleton.mp member
    rw [looked] at decisive
    exact absurd misses decisive
  | again free looked misses rested others ih =>
    rcases List.mem_cons.mp member with rfl | later
    · rw [looked] at decisive
      exact absurd misses decisive
    · obtain ⟨isLast, ends⟩ := ih later
      exact ⟨getLast?_cons_of_some isLast, ends⟩

theorem fails (run : Looks env p condition started deadline n last w looks ending t w') {v : ω}
    (member : v ∈ looks) {f : Failure} (failed : (condition v).ending = .failed f)
    (final : f.isRetryable = false) : ending = .failed f := (run.passes member failed final).2.1

end Looks

end Poll

end MonitoringUpkeep
