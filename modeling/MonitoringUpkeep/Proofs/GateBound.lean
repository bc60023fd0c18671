import MonitoringUpkeep.Proofs.GateKeeping
import MonitoringUpkeep.Proofs.PollBound

/-!
# The time of a change of the gate

A change of the gate waits only in its polls, and each poll that it comes to keeps to the timeout of its
phase, whatever the cluster answers. So all the waits that a change requests take at most the timeouts of
the phases that it comes to: that of the patch, that of the quota and, to enable the gate, that of the
workloads.
-/

namespace MonitoringUpkeep

/-! ## Allowances -/

namespace Trace

/-- Whether an object of a kind, or a list of such objects, is asked for. -/
def asks (kind : Kind) (t : Trace) : Bool := t.calls.any fun call => call.1.kind == kind

@[simp] theorem asks_append (kind : Kind) (t u : Trace) :
    asks kind (t ++ u) = (asks kind t || asks kind u) := by
  simp [asks]

/-- The timeout of a phase that asks for objects of a kind, if a trace comes to it. -/
def share (kind : Kind) (timeout : Rat) (t : Trace) : Rat := if t.asks kind then max 0 timeout else 0

/-- An amount for each trace that grows with the trace. -/
structure Grows (amount : Trace → Rat) : Prop where
  nonneg : ∀ t, 0 ≤ amount t
  left : ∀ t u, amount t ≤ amount (t ++ u)
  right : ∀ t u, amount u ≤ amount (t ++ u)

namespace Grows

variable {a b : Trace → Rat}

theorem zero : Grows fun _ => 0 := ⟨fun _ => le_rfl, fun _ _ => le_rfl, fun _ _ => le_rfl⟩

theorem add (first : Grows a) (second : Grows b) : Grows fun t => a t + b t where
  nonneg t := add_nonneg (first.nonneg t) (second.nonneg t)
  left t u := add_le_add (first.left t u) (second.left t u)
  right t u := add_le_add (first.right t u) (second.right t u)

theorem share (kind : Kind) (timeout : Rat) : Grows (share kind timeout) := by
  have nonneg : ∀ t, 0 ≤ Trace.share kind timeout t := fun t => by
    unfold Trace.share
    split
    · exact le_max_left ..
    · exact le_rfl
  have more : ∀ t u, (t.asks kind = true → u.asks kind = true) →
      Trace.share kind timeout t ≤ Trace.share kind timeout u := fun t u asked => by
    by_cases asks : t.asks kind = true
    · rw [Trace.share, Trace.share, if_pos asks, if_pos (asked asks)]
    · rw [Trace.share, if_neg asks]
      exact nonneg u
  exact ⟨nonneg, fun t u => more _ _ fun asks => by simp [asks],
    fun t u => more _ _ fun asks => by simp [asks]⟩

end Grows

end Trace

namespace Action

variable {ω α β : Type}

/-- The waits that an action requests take at most an amount. -/
def WaitsAtMost (amount : Trace → Rat) (x : Action ω α) : Prop :=
  ∀ w, (x w).trace.waited ≤ amount (x w).trace

namespace WaitsAtMost

variable {a b : Trace → Rat} {x : Action ω α} {next : α → Action ω β}

theorem mono (waits : WaitsAtMost a x) (less : ∀ t, a t ≤ b t) : WaitsAtMost b x :=
  fun w => (waits w).trans (less _)

/-- Chained actions wait for the amounts of both. -/
theorem bind (grows : Trace.Grows a) (more : Trace.Grows b) (first : WaitsAtMost a x)
    (second : ∀ v, WaitsAtMost b (next v)) : WaitsAtMost (fun t => a t + b t) (x >>= next) := by
  intro w
  have waited := first w
  rcases ran : x w with ⟨ending, t, w'⟩
  rw [ran] at waited
  cases ending with
  | done v =>
    rw [bind_done ran]
    dsimp only
    rw [Trace.waited_append]
    exact add_le_add (waited.trans (grows.left ..)) ((second v w').trans (more.right ..))
  | failed f =>
    rw [bind_failed ran]
    exact waited.trans (le_add_of_nonneg_right (more.nonneg t))
  | unfinished =>
    rw [bind_unfinished ran]
    exact waited.trans (le_add_of_nonneg_right (more.nonneg t))

end WaitsAtMost

end Action

/-! ## Idle actions -/

/-- Nothing is waited for, and the time does not go back. -/
def Idles {ω : Type} (time : ω → Rat) (w : ω) (t : Trace) (w' : ω) : Prop :=
  t.waits = [] ∧ time w ≤ time w'

/-- No reply of an environment takes time back. -/
def Environment.Onward {ω : Type} (env : Environment ω) (time : ω → Rat) : Prop :=
  ∀ request w, time w ≤ time (env.reply request w).2

theorem Environment.Onward.answers {ω : Type} {env : Environment ω} {time : ω → Rat}
    (onward : env.Onward time) : env.Answers (fun _ => True) (Idles time) fun _ => True where
  rest _ := ⟨rfl, le_rfl⟩
  chain first second := ⟨by rw [Trace.waits_append, first.1, second.1]; rfl, first.2.trans second.2⟩
  call request _ w := ⟨rfl, onward request w⟩
  refused _ _ _ _ _ := trivial
  own _ _ := trivial

theorem Idles.waited {ω : Type} {time : ω → Rat} {w w' : ω} {t : Trace} (idles : Idles time w t w') :
    t.waited = 0 := by
  rw [Trace.waited, idles.1]
  rfl

/-! ## Phases -/

namespace Gate
open MonitoringUpkeep.Action

variable {ω : Type} {env : Environment ω} {time : ω → Rat}

/-- A phase does what its poll does, and then does not wait. -/
theorem watch_trace (env : Environment ω) (measure : GateCondition) (p : Poll)
    (condition : Action ω Bool) (w : ω) : ∃ rest : Trace, rest.waited = 0 ∧
      (watch env measure p condition w).trace = (p.await env condition w).trace ++ rest := by
  rcases ends : p.await env condition w with ⟨ending, t, w₁⟩
  cases ending with
  | done seconds =>
    rw [watch, bind_done ends]
    exact ⟨[.measured measure seconds], rfl, rfl⟩
  | failed f =>
    rw [watch, bind_failed ends]
    exact ⟨[], rfl, (List.append_nil t).symm⟩
  | unfinished =>
    rw [watch, bind_unfinished ends]
    exact ⟨[], rfl, (List.append_nil t).symm⟩

/-- A phase in which each look asks for objects of a kind, and waits for nothing itself, waits at most
    for its timeout. -/
theorem waits_watch (timed : env.Timed time) {p : Poll} {i T : Rat} (paced : p.Paced i T)
    {condition : Action ω Bool} (idles : ∀ w, Idles time w (condition w).trace (condition w).world)
    {kind : Kind} (asks : ∀ w, (condition w).trace.asks kind = true) (measure : GateCondition) :
    WaitsAtMost (Trace.share kind T) (watch env measure p condition) := by
  intro w
  obtain ⟨looks, timely⟩ := Poll.await_timely timed paced (fun w => (idles w).2) w
  obtain ⟨timeout, -, run⟩ := timely.looked
  obtain ⟨rest, none, trace⟩ := watch_trace env measure p condition w
  have same : (watch env measure p condition w).trace.waited =
      (p.await env condition w).trace.waited := by
    rw [trace, Trace.waited_append, none, add_zero]
  rw [same]
  cases looks with
  | nil =>
    -- Without a look the poll was cancelled before anything happened.
    have waited : (p.await env condition w).trace.effects.waited = 0 := by
      rw [run.nothing]
      rfl
    rw [← Trace.waited_effects, waited]
    exact (Trace.Grows.share kind T).nonneg _
  | cons v others =>
    have asked : (watch env measure p condition w).trace.asks kind = true := by
      have looked := run.calls
      rw [Trace.calls_effects] at looked
      rw [trace, Trace.asks_append, Trace.asks, looked, List.flatMap_cons, List.any_append]
      rw [← Trace.asks, asks v, Bool.true_or, Bool.true_or]
    have idle : ((v :: others).map fun u => (condition u).trace.waited).sum = 0 :=
      List.sum_eq_zero fun amount member => by
        obtain ⟨u, -, rfl⟩ := List.mem_map.mp member
        exact (idles u).waited
    have short := timely.short
    rw [idle, zero_add] at short
    rw [Trace.share, if_pos asked]
    exact short

/-- The intervals of a gate are positive numbers, and its timeouts numbers. -/
structure Paced (g : Gate) (T P : Rat) : Prop where
  interval : ∃ i, g.interval.amount? = some i ∧ 0 < i
  patchInterval : ∃ i, g.patchInterval.amount? = some i ∧ 0 < i
  timeout : g.timeout.amount? = some T
  patchTimeout : g.patchTimeout.amount? = some P

/-- The timeouts of the phases that a change of the gate comes to: the patch and the quota, and the
    workloads if the gate is to be enabled. -/
def allowance (enable : Value) (T P : Rat) (t : Trace) : Rat :=
  t.share .hyperConverged P +
    (t.share .tenantQuota T + if enable.isBlank then 0 else t.share .deployment T)

theorem grows_allowance (enable : Value) (T P : Rat) : Trace.Grows (allowance enable T P) := by
  unfold allowance
  cases enable.isBlank with
  | true => exact (Trace.Grows.share _ _).add ((Trace.Grows.share _ _).add .zero)
  | false => exact (Trace.Grows.share _ _).add ((Trace.Grows.share _ _).add (.share _ _))

section
variable (g : Gate) {T P : Rat} (timed : env.Timed time) (paced : g.Paced T P)
include timed paced

theorem waits_quota {condition : Action ω Bool} (measure : GateCondition) (description : Value)
    (idles : ∀ w, Idles time w (condition w).trace (condition w).world)
    (call : ∀ w, (condition w).trace.calls = [(g.quotaLook, (env.reply g.quotaLook w).1)]) :
    WaitsAtMost (Trace.share .tenantQuota T)
      (watch env measure ⟨description, g.timeout, g.interval⟩ condition) := by
  obtain ⟨i, interval, positive⟩ := paced.interval
  have asks (w : ω) : (condition w).trace.asks .tenantQuota = true := by
    rw [Trace.asks, call w]
    rfl
  exact waits_watch timed ⟨interval, positive, paced.timeout⟩ idles asks measure

variable (onward : env.Onward time)
include onward

theorem waits_awaitRemoved : WaitsAtMost (Trace.share .tenantQuota T) (g.awaitRemoved env) := by
  have looked := g.keeps_isRemoved onward.answers trivial
  exact g.waits_quota timed paced .removed _ (fun w => (looked w).1) fun w => (isRemoved_call g env w).1

theorem waits_awaitAvailable : WaitsAtMost (Trace.share .tenantQuota T) (g.awaitAvailable env) := by
  have looked := g.keeps_isAvailable onward.answers trivial
  exact g.waits_quota timed paced .available _ (fun w => (looked w).1)
    fun w => (isAvailable_call g env w).1

theorem waits_awaitWorkloads : WaitsAtMost (Trace.share .deployment T) (g.awaitWorkloads env) := by
  obtain ⟨i, interval, positive⟩ := paced.interval
  have looked := g.keeps_workloadsReady onward.answers trivial trivial
  have asks (w : ω) : (g.workloadsReady env w).trace.asks .deployment = true := by
    rcases (workloadsReady_round g env w).1 with ⟨reply, calls⟩ | ⟨deployments, reply, calls⟩
    all_goals
      rw [Trace.asks, calls]
      rfl
  exact waits_watch timed ⟨interval, positive, paced.timeout⟩ (fun w => (looked w).1) asks .workloads

theorem waits_patch (enable : Value) :
    WaitsAtMost (Trace.share .hyperConverged P) (g.patch env enable) := by
  obtain ⟨i, interval, positive⟩ := paced.patchInterval
  have tried : Keeps (Idles time) (fun _ => True) (g.tryPatch env enable) :=
    g.keeps_tryPatch onward.answers (fun _ => trivial) trivial
  have asks (w : ω) : (g.tryPatch env enable w).trace.asks .hyperConverged = true := by
    rw [Trace.asks, (tryPatch_call g enable env w).1]
    rfl
  unfold patch
  refine (WaitsAtMost.bind (.share .hyperConverged P) .zero ?_ fun _ w => le_rfl).mono fun t => ?_
  · exact waits_watch timed ⟨interval, positive, paced.patchTimeout⟩ (fun w => (tried w).1) asks .patch
  · exact (add_zero _).le

theorem waits_awaitExpected : WaitsAtMost (Trace.share .deployment T) (g.awaitExpected env) := by
  have none : WaitsAtMost (fun _ => 0)
      (ofExcept ((Value.int 0).isBelow g.expectedDeployments) : Action ω Bool) := by
    intro w
    cases (Value.int 0).isBelow g.expectedDeployments <;> exact le_rfl
  unfold awaitExpected
  refine (WaitsAtMost.bind .zero (.share .deployment T) none fun expected => ?_).mono
    fun t => (zero_add _).le
  cases expected with
  | true => exact g.waits_awaitWorkloads timed paced onward
  | false => exact fun w => (Trace.Grows.share _ _).nonneg _

/-- After the patch a change waits for the quota and, to enable the gate, for the workloads. -/
theorem waits_follow (enable : Value) : WaitsAtMost (fun t =>
    t.share .tenantQuota T + if enable.isBlank then 0 else t.share .deployment T)
      (g.follow env enable) := by
  unfold follow
  cases enable.isBlank with
  | true => exact (g.waits_awaitRemoved timed paced onward).mono fun t => (add_zero _).ge
  | false =>
    exact .bind (.share _ _) (.share _ _) (g.waits_awaitAvailable timed paced onward)
      fun _ => g.waits_awaitExpected timed paced onward

theorem waits_change (enable : Value) : WaitsAtMost (allowance enable T P)
    (g.patch env enable >>= fun _ => g.follow env enable) := by
  refine .bind (.share _ _) ?_ (g.waits_patch timed paced onward enable)
    fun _ => g.waits_follow timed paced onward enable
  cases enable.isBlank with
  | true => exact (Trace.Grows.share _ _).add .zero
  | false => exact (Trace.Grows.share _ _).add (.share _ _)

theorem waits_set (enable : Value) : WaitsAtMost (allowance enable T P) (g.set env enable) := by
  have change := g.waits_change timed paced onward enable
  rw [set_eq]
  split
  · exact change
  · have listed := keeps_isSingleWorker onward.answers trivial
    have none : WaitsAtMost (fun _ => 0) (isSingleWorker env) := fun w => (listed w).1.waited.le
    refine (WaitsAtMost.bind .zero (grows_allowance enable T P) none fun single => ?_).mono
      fun t => (zero_add _).le
    cases single with
    | true => exact fun w => (grows_allowance enable T P).nonneg _
    | false => exact change

end

end Gate

/-- **Polls and changes of the gate keep to their time.** With a clock that tells exact times and waits
    that let their seconds pass, a poll with a positive interval looks at most once more than the intervals
    that fit into its timeout, rounded up, waits at most for its timeout, and ends; and a change of the gate
    waits at most for the timeouts of the phases that it comes to. -/
theorem Environment.Timed.waits_bounded {ω : Type} {env : Environment ω} {time : ω → Rat}
    (timed : env.Timed time) :
    (∀ (p : Poll) (condition : Action ω Bool) (i T : Rat), p.Paced i T →
      (∀ w, time w ≤ time (condition w).world) → ∀ w, ∃ looks,
        Poll.Timely env p condition i T w looks (p.await env condition w)) ∧
    (env.Onward time → ∀ (g : Gate) (T P : Rat), g.Paced T P → ∀ enable w,
      (g.set env enable w).trace.waited ≤ Gate.allowance enable T P (g.set env enable w).trace) :=
  ⟨fun _ _ _ _ paced steady w => Poll.await_timely timed paced steady w,
    fun onward g _ _ paced enable => g.waits_set timed paced onward enable⟩

theorem Environment.clockwork_timed (rounds : Nat) : (clockwork rounds).Timed fun n => n where
  exact := rfl
  read n := ⟨n, rfl, le_rfl, le_rfl⟩
  passes seconds n next waited := by
    obtain rfl : n + seconds.amount.ceil.toNat = next := congrArg Prod.snd waited
    have up : seconds.amount ≤ seconds.amount.ceil.toNat :=
      Rat.le_ceil.trans (by exact_mod_cast Int.self_le_toNat _)
    push_cast
    linarith

/-- A poll of two seconds for what never holds looks thrice, and a gate that cannot be patched is given up
    after the time for the patch. -/
theorem Environment.Timed.waits_bounded_clockwork :
    let env := Environment.clockwork 5
    let time : Nat → Rat := fun n => n
    let p : Poll := ⟨"thing", .int 2, .int 1⟩
    let condition : Action Nat Bool := fun n => ⟨.done false, [], n⟩
    let g : Gate := { clusterName := "cluster", space := "space", timeout := .int 3,
                      patchTimeout := .int 2, patchInterval := .int 1 }
    env.Timed time ∧ p.Paced 1 2 ∧ (∀ n, time n ≤ time (condition n).world) ∧
      (∃ looks, Poll.Timely env p condition 1 2 0 looks (p.await env condition 0)) ∧
      env.Onward time ∧ g.Paced 3 2 ∧
      (g.set env (.bool false) 0).trace.waited ≤
        Gate.allowance (.bool false) 3 2 (g.set env (.bool false) 0).trace := by
  intro env time p condition g
  have timed : env.Timed time := clockwork_timed 5
  have paced : p.Paced 1 2 := ⟨rfl, by decide, rfl⟩
  have steady : ∀ n, time n ≤ time (condition n).world := fun n => le_rfl
  have onward : env.Onward time := fun request n => le_rfl
  have gatePaced : g.Paced 3 2 := ⟨⟨1, rfl, by decide⟩, ⟨1, rfl, by decide⟩, rfl, rfl⟩
  exact ⟨timed, paced, steady, timed.waits_bounded.1 p condition 1 2 paced steady 0, onward, gatePaced,
    timed.waits_bounded.2 onward g 3 2 gatePaced (.bool false) 0⟩

end MonitoringUpkeep
