import MonitoringUpkeep.Proofs.Survey

/-!
# Laps of the run loop

The loop goes in laps. A lap starts with a look at the stop token; if it is not set a pass is made,
and what comes of the pass is noted: a success raises the readiness flag, a failure is reported, and
after either the loop rests. The loop ends where the token is set, where the cluster denied access,
and where the report of a failed pass is lost on its way. All that the loop does in a world where its
rests are accepted and chance does not fail is said by `Laps`; the later theorems about runs are
inductions over laps.
-/

namespace MonitoringUpkeep

namespace Failure

/-- The cluster denies access: it answers with the status 401 or 403. -/
def isDenial : Failure → Bool
  | .api (.int n) .. => n = 401 || n = 403
  | _ => false

/-- An answer of the API carries an integer as its status, or none. -/
def Coded : Failure → Prop
  | .api status .. => status = .null ∨ ∃ n, status = .int n
  | _ => True

/-- What the report of a failed pass says about the failure: the reason that the API gave, or the
    message. -/
def cause : Failure → String
  | .api _ reason .. => reason.display
  | f => f.message

theorem coded_of_not_api {f : Failure} (other : f.isApi = false) : f.Coded := by
  cases f with
  | api status reason body text => cases other
  | _ => trivial

theorem statusAmong_denials {status : Value} (reason body : Value) (text : String)
    (coded : (Failure.api status reason body text).Coded) :
    statusAmong status Operator.denials = .ok (Failure.api status reason body text).isDenial := by
  rcases coded with rfl | ⟨n, rfl⟩
  · simp [statusAmong, Operator.denials, isDenial, Value.agrees_iff, Value.meaning]
  · simp [statusAmong, Operator.denials, isDenial, Value.int_agrees_iff]

end Failure

/-- Whether an action ended because the cluster denied access. -/
def Ending.isDenied {α : Type} : Ending α → Bool
  | .failed f => f.isDenial
  | _ => false

/-- Waits of a length are accepted: they end with whether the stop token is set. -/
def Environment.Accepts {ω : Type} (env : Environment ω) (seconds : Value) : Prop :=
  ∀ w, ∃ set w', env.wait seconds w = (.ok set, w')

/-- Chance gives numbers, and the rests of an operator are accepted. Waits can be too long to be
    accepted. Those after failures never are, since their bound is half a minute, but the configured one
    may be: then the first pass that succeeds is the last, as `Operator.passes_overlong` says. -/
structure Environment.Steady {ω : Type} (env : Environment ω) (o : Operator) : Prop where
  draw : ∀ w, ∃ chance w', env.draw w = (.real chance, w')
  success : env.Accepts (.int o.configuration.resyncSeconds)
  failure : ∀ w chance w' bound, env.draw w = (.real chance, w') → 1 ≤ bound → bound ≤ 30 →
    env.Accepts (.real (Operator.backoff env.round bound chance))

namespace Operator

variable {ω : Type}

/-- What the loop notes of the end of a pass, beside log records: a success raises the readiness flag,
    and a failure that is no denial is reported. -/
def notes (o : Operator) : Ending (Option StatusRequest) → Trace
  | .done _ => [.count (.passes true), .succeeded, .ready true]
  | .failed f => .count (.passes false) ::
    if f.isDenial then [] else [o.recorder.entry (Event.passFailed f.cause)]
  | .unfinished => []

/-- The report of a failed pass is lost: it does not reach the cluster, for a failure that is no
    answer of the cluster. -/
structure Loses (env : Environment ω) (o : Operator) (w : ω) (g : Failure) : Prop where
  reported : ∃ f t w₁ w₂, pass env o w = ⟨.failed f, t, w₁⟩ ∧ f.isDenial = false ∧
    env.deliver o.recorder.owner.space (o.recorder.body (Event.passFailed f.cause)) w₁ =
      (.error g, w₂)
  other : g.isApi = false

/-- The laps of the loop from a world, for a number of rounds and with a bound of the next rest after
    a failure: the worlds in which the passes start after which it rests, the one in which its last
    pass starts if it rests no more, how it ends, what it does, and the world it leaves. -/
inductive Laps (env : Environment ω) (o : Operator) :
    Nat → Nat → ω → List ω → Option ω → Ending Unit → Trace → ω → Prop
  /-- the rounds are used up -/
  | cut {bound w} : Laps env o 0 bound w [] none .unfinished [] w
  /-- the stop token is set -/
  | told {n bound w} (set : env.stopped w = true) :
      Laps env o (n + 1) bound w [] none (.done ()) [.ready false] w
  /-- the cluster denies access -/
  | denied {n bound w f t w₁} (free : env.stopped w = false)
      (made : pass env o w = ⟨.failed f, t, w₁⟩) (denial : f.isDenial = true) :
      Laps env o (n + 1) bound w [] (some w) (.done ())
        (t.effects ++ notes o (.failed f) ++ [.ready false]) w₁
  /-- a pass fails, and so does its report -/
  | lost {n bound w f t w₁ g w₂} (free : env.stopped w = false)
      (made : pass env o w = ⟨.failed f, t, w₁⟩) (goesOn : f.isDenial = false)
      (delivered : env.deliver o.recorder.owner.space
        (o.recorder.body (Event.passFailed f.cause)) w₁ = (.error g, w₂))
      (other : g.isApi = false) :
      Laps env o (n + 1) bound w [] (some w) (.failed g)
        (t.effects ++ notes o (.failed f)) w₂
  /-- a pass fails, which is reported, and the loop rests -/
  | failed {n bound w f t w₁ answer w₂ chance w₃ set w₄ rested last ending u w'}
      (free : env.stopped w = false) (made : pass env o w = ⟨.failed f, t, w₁⟩)
      (goesOn : f.isDenial = false)
      (delivered : env.deliver o.recorder.owner.space
        (o.recorder.body (Event.passFailed f.cause)) w₁ = (answer, w₂))
      (accepted : ∀ g, answer = .error g → g.isApi) (drawn : env.draw w₂ = (.real chance, w₃))
      (waited : env.wait (.real (backoff env.round bound chance)) w₃ = (.ok set, w₄))
      (others : Laps env o n (nextBound bound) w₄ rested last ending u w') :
      Laps env o (n + 1) bound w (w :: rested) last ending
        (t.effects ++ notes o (.failed f) ++
          .wait (.real (backoff env.round bound chance)) :: u) w'
  /-- a pass succeeds, and the loop rests -/
  | succeeded {n bound w result t w₁ set w₂ rested last ending u w'} (free : env.stopped w = false)
      (made : pass env o w = ⟨.done result, t, w₁⟩)
      (waited : env.wait (.int o.configuration.resyncSeconds) w₁ = (.ok set, w₂))
      (others : Laps env o n 1 w₂ rested last ending u w') :
      Laps env o (n + 1) bound w (w :: rested) last ending
        (t.effects ++ notes o (.done result) ++
          .wait (.int o.configuration.resyncSeconds) :: u) w'

/-- The rest after the pass that starts in a world: how long it is, and the world at its end. -/
inductive RestsUntil (env : Environment ω) (o : Operator) (v : ω) : Value → ω → Prop
  /-- after a success -/
  | succeeded {result t w₁ set w₂} (made : pass env o v = ⟨.done result, t, w₁⟩)
      (waited : env.wait (.int o.configuration.resyncSeconds) w₁ = (.ok set, w₂)) :
      RestsUntil env o v (.int o.configuration.resyncSeconds) w₂
  /-- after a failure and its report -/
  | failed {f t w₁ answer w₂ bound chance w₃ set w₄} (made : pass env o v = ⟨.failed f, t, w₁⟩)
      (delivered : env.deliver o.recorder.owner.space
        (o.recorder.body (Event.passFailed f.cause)) w₁ = (answer, w₂))
      (low : 1 ≤ bound) (high : bound ≤ 30) (drawn : env.draw w₂ = (.real chance, w₃))
      (waited : env.wait (.real (backoff env.round bound chance)) w₃ = (.ok set, w₄)) :
      RestsUntil env o v (.real (backoff env.round bound chance)) w₄

/-- Passes and rests in turn, from a world to a world: each pass starts where the rest before it ended. -/
inductive Follows (env : Environment ω) (o : Operator) : ω → List ω → List Value → ω → Prop
  | nil (w : ω) : Follows env o w [] [] w
  | cons {v s v' rested seconds w} (rests : RestsUntil env o v s v')
      (others : Follows env o v' rested seconds w) : Follows env o v (v :: rested) (s :: seconds) w

variable {env : Environment ω} {o : Operator} {w w' : ω} {f : Failure}

theorem nextBound_bounds {bound : Nat} (low : 1 ≤ bound) :
    1 ≤ nextBound bound ∧ nextBound bound ≤ 30 := by
  unfold nextBound
  omega

theorem waits_notes (o : Operator) (ending : Ending (Option StatusRequest)) :
    (notes o ending).waits = [] := by
  cases ending with
  | failed f => cases denial : f.isDenial <;> simp [notes, denial] <;> rfl
  | _ => rfl

/-- Neither a pass nor what is noted of its end is a rest. -/
theorem waits_of_made {ending : Ending (Option StatusRequest)} {t : Trace}
    (made : pass env o w = ⟨ending, t, w'⟩) (u : Trace) :
    Trace.waits (t.effects ++ notes o ending ++ u) = u.waits := by
  have none := pass_waits env o w
  rw [made] at none
  rw [Trace.waits_append, Trace.waits_append, Trace.waits_effects, none, waits_notes]
  rfl

/-- A denial is counted and not reported. -/
theorem reportFailure_denied (env : Environment ω) (o : Operator) (w : ω) (coded : f.Coded)
    (denial : f.isDenial = true) : ∃ t,
      reportFailure env o f w = ⟨.done true, t, w⟩ ∧ t.effects = notes o (.failed f) := by
  cases f with
  | api status reason body text =>
    have among := Failure.statusAmong_denials reason body text coded
    simp only [reportFailure, among, notes, denial]
    exact ⟨_, rfl, rfl⟩
  | _ => cases denial

/-- Any other failure is counted and reported. -/
theorem reportFailure_emits (env : Environment ω) (o : Operator) (w : ω) (coded : f.Coded)
    (goesOn : f.isDenial = false) : ∃ record, reportFailure env o f w =
      (do Action.count (.passes false)
          Action.note (.log record)
          o.recorder.emit env (Event.passFailed f.cause)
          return false : Action ω Bool) w := by
  cases f with
  | api status reason body text =>
    have among := Failure.statusAmong_denials reason body text coded
    rw [goesOn] at among
    refine ⟨⟨Level.error, logger, "Monitoring reconcile pass failed",
      some (.api status reason body text)⟩, ?_⟩
    simp only [reportFailure, among]
    rfl
  | _ => exact ⟨_, rfl⟩

theorem reportFailure_accepted (coded : f.Coded) (goesOn : f.isDenial = false)
    {answer : Except Failure Unit} (delivered : env.deliver o.recorder.owner.space
      (o.recorder.body (Event.passFailed f.cause)) w = (answer, w'))
    (accepted : ∀ g, answer = .error g → g.isApi) : ∃ t,
      reportFailure env o f w = ⟨.done false, t, w'⟩ ∧
        t.effects = notes o (.failed f) := by
  obtain ⟨record, unfolded⟩ := reportFailure_emits env o w coded goesOn
  obtain ⟨t, emitted, effects⟩ := Recorder.emit_accepted delivered accepted
  have noted : (Action.note (.log record) : Action ω Unit) w = ⟨.done (), [.log record], w⟩ := rfl
  rw [unfolded, Action.bind_done (Action.count_apply _ w), Action.bind_done noted,
    Action.bind_done emitted]
  refine ⟨_, rfl, ?_⟩
  simp only [Trace.effects_append, effects, notes, goesOn]
  rfl

theorem reportFailure_lost (coded : f.Coded) (goesOn : f.isDenial = false) {g : Failure}
    (delivered : env.deliver o.recorder.owner.space
      (o.recorder.body (Event.passFailed f.cause)) w = (.error g, w'))
    (other : g.isApi = false) : ∃ t,
      reportFailure env o f w = ⟨.failed g, t, w'⟩ ∧
        t.effects = notes o (.failed f) := by
  obtain ⟨record, unfolded⟩ := reportFailure_emits env o w coded goesOn
  have noted : (Action.note (.log record) : Action ω Unit) w = ⟨.done (), [.log record], w⟩ := rfl
  rw [unfolded, Action.bind_done (Action.count_apply _ w), Action.bind_done noted,
    Action.bind_failed (Recorder.emit_failed delivered other)]
  refine ⟨_, rfl, ?_⟩
  rw [notes, goesOn]
  rfl

/-- How the loop goes on after a pass. -/
def goOn (env : Environment ω) (o : Operator) (n bound : Nat) :
    Except Failure (Option StatusRequest) → Action ω Unit
  | .ok _ => do
    reportSuccess
    let _ ← env.sleep (.int o.configuration.resyncSeconds)
    passes env o n 1
  | .error f => do
    if ← reportFailure env o f then setReady false
    else
      let chance ← Action.ofExcept ((← env.random).toReal env.round)
      let _ ← env.sleep (.real (backoff env.round bound chance))
      passes env o n (nextBound bound)

theorem passes_told (n bound : Nat) (set : env.stopped w = true) :
    passes env o (n + 1) bound w = ⟨.done (), [.ready false], w⟩ := by
  rw [passes, Action.bind_done (Environment.isStopped_done set)]
  rfl

theorem passes_free (n bound : Nat) (free : env.stopped w = false) :
    passes env o (n + 1) bound w =
      (Action.attempt (pass env o) >>= goOn env o n bound : Action ω Unit) w := by
  rw [passes, Action.bind_done (Environment.isStopped_done free)]
  simp only [Bool.false_eq_true, if_false, List.nil_append]
  rfl

theorem goOn_succeeded (n bound : Nat) {result : Option StatusRequest} {set : Bool}
    (rested : env.wait (.int o.configuration.resyncSeconds) w = (.ok set, w')) :
    goOn env o n bound (.ok result) w =
      ⟨(passes env o n 1 w').ending, notes o (.done result) ++
        .wait (.int o.configuration.resyncSeconds) :: (passes env o n 1 w').trace,
        (passes env o n 1 w').world⟩ := by
  have noted : (reportSuccess : Action ω Unit) w =
    ⟨.done (), notes o (.done result), w⟩ := rfl
  rw [goOn, Action.bind_done noted, Action.bind_done (Environment.sleep_done rested)]
  rfl

/-- Where the configured rest is not accepted, the first pass that succeeds is the last: the loop fails as
    the wait does, and the readiness flag stays up. -/
theorem passes_overlong (n bound : Nat) (free : env.stopped w = false) {result : Option StatusRequest}
    {t : Trace} {w₁ w₂ : ω} (made : pass env o w = ⟨.done result, t, w₁⟩)
    (refused : env.wait (.int o.configuration.resyncSeconds) w₁ = (.error f, w₂)) :
    passes env o (n + 1) bound w = ⟨.failed f,
      t ++ (notes o (.done result) ++ [.wait (.int o.configuration.resyncSeconds)]), w₂⟩ := by
  have noted : (reportSuccess : Action ω Unit) w₁ = ⟨.done (), notes o (.done result), w₁⟩ := rfl
  rw [passes_free n bound free, Action.bind_done (Action.attempt_done made), goOn,
    Action.bind_done noted, Action.bind_failed (Environment.sleep_failed refused)]

theorem goOn_denied (n bound : Nat) {t : Trace}
    (reported : reportFailure env o f w = ⟨.done true, t, w'⟩) :
    goOn env o n bound (.error f) w = ⟨.done (), t ++ [.ready false], w'⟩ := by
  rw [goOn, Action.bind_done reported]
  rfl

theorem goOn_lost (n bound : Nat) {t : Trace} {g : Failure}
    (reported : reportFailure env o f w = ⟨.failed g, t, w'⟩) :
    goOn env o n bound (.error f) w = ⟨.failed g, t, w'⟩ := by
  rw [goOn, Action.bind_failed reported]

theorem goOn_failed (n bound : Nat) {t : Trace} {w₂ w₃ w₄ : ω} {chance : Binary64} {set : Bool}
    (reported : reportFailure env o f w = ⟨.done false, t, w₂⟩)
    (drawn : env.draw w₂ = (.real chance, w₃))
    (rested : env.wait (.real (backoff env.round bound chance)) w₃ = (.ok set, w₄)) :
    goOn env o n bound (.error f) w =
      ⟨(passes env o n (nextBound bound) w₄).ending,
        t ++ .wait (.real (backoff env.round bound chance)) ::
          (passes env o n (nextBound bound) w₄).trace,
        (passes env o n (nextBound bound) w₄).world⟩ := by
  have random : env.random w₂ = ⟨.done (.real chance), [], w₃⟩ := by
    simp only [Environment.random, drawn]
  have real : (Action.ofExcept ((Value.real chance).toReal env.round) : Action ω Binary64) w₃ =
    ⟨.done chance, [], w₃⟩ := rfl
  rw [goOn, Action.bind_done reported]
  simp only [Bool.false_eq_true, if_false]
  rw [Action.bind_done random, Action.bind_done real, Action.bind_done (Environment.sleep_done rested)]
  rfl

/-- The loop goes in laps. -/
theorem passes_laps (steady : env.Steady o)
    (coded : ∀ w f, (pass env o w).ending = .failed f → f.Coded) (n : Nat) {bound : Nat}
    (low : 1 ≤ bound) (high : bound ≤ 30) (w : ω) : ∃ rested last, Laps env o n bound w rested last
      (passes env o n bound w).ending (passes env o n bound w).trace.effects
      (passes env o n bound w).world := by
  induction n generalizing bound w with
  | zero => exact ⟨[], none, .cut⟩
  | succ n ih =>
    cases free : env.stopped w with
    | true =>
      rw [passes_told n bound free]
      exact ⟨[], none, .told free⟩
    | false =>
      rw [passes_free n bound free]
      rcases made : pass env o w with ⟨ending, t, w₁⟩
      cases ending with
      | unfinished => exact absurd (congrArg Outcome.ending made) (pass_ends env o w)
      | done result =>
        obtain ⟨set, w₂, waited⟩ := steady.success w₁
        obtain ⟨rested, last, laps⟩ := ih le_rfl (by decide) w₂
        rw [Action.bind_done (Action.attempt_done made), goOn_succeeded n bound waited,
          ← List.append_assoc, Trace.effects_append, Trace.effects_append]
        exact ⟨w :: rested, last, .succeeded free made waited laps⟩
      | failed f =>
        have known : f.Coded := coded w f (congrArg Outcome.ending made)
        rw [Action.bind_done (Action.attempt_failed made)]
        cases denial : f.isDenial with
        | true =>
          obtain ⟨u, reported, effects⟩ := reportFailure_denied env o w₁ known denial
          rw [goOn_denied n bound reported, ← List.append_assoc, Trace.effects_append,
            Trace.effects_append, effects]
          exact ⟨[], some w, .denied free made denial⟩
        | false =>
          rcases delivered : env.deliver o.recorder.owner.space
            (o.recorder.body (Event.passFailed f.cause)) w₁ with ⟨answer, w₂⟩
          by_cases accepted : ∀ g, answer = .error g → g.isApi
          · obtain ⟨u, reported, effects⟩ := reportFailure_accepted known denial delivered accepted
            obtain ⟨chance, w₃, drawn⟩ := steady.draw w₂
            obtain ⟨set, w₄, waited⟩ := steady.failure w₂ chance w₃ bound drawn low high w₃
            obtain ⟨below, above⟩ := nextBound_bounds low
            obtain ⟨rested, last, laps⟩ := ih below above w₄
            rw [goOn_failed n bound reported drawn waited, ← List.append_assoc,
              Trace.effects_append, Trace.effects_append, effects]
            exact ⟨w :: rested, last,
              .failed free made denial delivered accepted drawn waited laps⟩
          · obtain ⟨g, rfl, other⟩ : ∃ g, answer = .error g ∧ g.isApi = false := by
              simpa using accepted
            obtain ⟨u, reported, effects⟩ := reportFailure_lost known denial delivered other
            rw [goOn_lost n bound reported, Trace.effects_append, effects]
            exact ⟨[], some w, .lost free made denial delivered other⟩

/-! ## What the laps do -/

namespace Laps

variable {n bound : Nat} {rested : List ω} {last : Option ω} {ending : Ending Unit} {u : Trace}

theorem free (laps : Laps env o n bound w rested last ending u w') :
    ∀ v ∈ rested ++ last.toList, env.stopped v = false := by
  induction laps with
  | cut => nofun
  | told => nofun
  | denied free made denial => simpa using free
  | lost free => simpa using free
  | failed free made goesOn delivered accepted drawn waited others ih => simpa [free] using ih
  | succeeded free made waited others ih => simpa [free] using ih

theorem goesOn (laps : Laps env o n bound w rested last ending u w') :
    ∀ v ∈ rested, (pass env o v).ending.isDenied = false ∧ ∀ g, ¬ Loses env o v g := by
  induction laps with
  | cut => nofun
  | told => nofun
  | denied => nofun
  | lost => nofun
  | failed free made goesOn delivered accepted drawn waited others ih =>
    refine List.forall_mem_cons.mpr ⟨⟨by simp [made, Ending.isDenied, goesOn], ?_⟩, ih⟩
    rintro g ⟨⟨f', t', v₁, v₂, made', -, delivered'⟩, other⟩
    cases made.symm.trans made'
    cases delivered.symm.trans delivered'
    rw [accepted g rfl] at other
    cases other
  | succeeded free made waited others ih =>
    refine List.forall_mem_cons.mpr ⟨⟨by simp [made, Ending.isDenied], ?_⟩, ih⟩
    rintro g ⟨⟨f', t', v₁, v₂, made', -⟩, -⟩
    cases made.symm.trans made'

/-- The loop returns only where the token is set or access was denied. -/
theorem returns (laps : Laps env o n bound w rested last ending u w') (done : ending = .done ()) :
    (last = none ∧ env.stopped w' = true) ∨
      ∃ v, last = some v ∧ (pass env o v).ending.isDenied = true := by
  induction laps with
  | cut => cases done
  | told set => exact .inl ⟨rfl, set⟩
  | @denied _ _ w _ _ _ _ made denial =>
    exact .inr ⟨w, rfl, by simp [made, Ending.isDenied, denial]⟩
  | lost => cases done
  | failed free made goesOn delivered accepted drawn waited others ih => exact ih done
  | succeeded free made waited others ih => exact ih done

/-- The loop fails exactly where the report of a failed pass is lost. -/
theorem failed_iff (laps : Laps env o n bound w rested last ending u w') (g : Failure) :
    ending = .failed g ↔ ∃ v, last = some v ∧ Loses env o v g := by
  induction laps with
  | cut => simp
  | told => simp
  | denied free made denial =>
    refine ⟨nofun, ?_⟩
    rintro ⟨v, same, ⟨f', t', v₁, v₂, made', goesOn, -⟩, -⟩
    cases same
    cases made.symm.trans made'
    rw [denial] at goesOn
    cases goesOn
  | @lost _ _ w f t w₁ g' w₂ free made goesOn delivered other =>
    constructor
    · intro same
      cases same
      exact ⟨w, rfl, ⟨f, t, w₁, w₂, made, goesOn, delivered⟩, other⟩
    · rintro ⟨v, same, ⟨f', t', v₁, v₂, made', -, delivered'⟩, -⟩
      cases same
      cases made.symm.trans made'
      cases delivered.symm.trans delivered'
      rfl
  | failed free made goesOn delivered accepted drawn waited others ih => exact ih
  | succeeded free made waited others ih => exact ih

/-- The loop goes on for as many rounds as it is followed if it does not end before. -/
theorem goes_on (laps : Laps env o n bound w rested last ending u w')
    (cut : ending = .unfinished) : last = none ∧ rested.length = n := by
  induction laps with
  | cut => exact ⟨rfl, rfl⟩
  | told => cases cut
  | denied => cases cut
  | lost => cases cut
  | failed free made goesOn delivered accepted drawn waited others ih =>
    obtain ⟨none, all⟩ := ih cut
    exact ⟨none, congrArg (· + 1) all⟩
  | succeeded free made waited others ih =>
    obtain ⟨none, all⟩ := ih cut
    exact ⟨none, congrArg (· + 1) all⟩

/-- Each pass of the loop starts where the rest before it ended, and these are all rests. -/
theorem follows (laps : Laps env o n bound w rested last ending u w') (low : 1 ≤ bound)
    (high : bound ≤ 30) : Follows env o w rested u.waits (last.getD w') := by
  induction laps with
  | cut => exact .nil _
  | told => exact .nil _
  | denied free made =>
    rw [waits_of_made made]
    exact .nil _
  | lost free made =>
    rw [← List.append_nil (_ ++ _), waits_of_made made]
    exact .nil _
  | failed free made goesOn delivered accepted drawn waited others ih =>
    have next := nextBound_bounds low
    rw [waits_of_made made]
    exact .cons (.failed made delivered low high drawn waited) (ih next.1 next.2)
  | succeeded free made waited others ih =>
    rw [waits_of_made made]
    exact .cons (.succeeded made waited) (ih le_rfl (by decide))

/-- What a projection that sees neither rests nor changes of the readiness flag sees of the loop is
    what it sees of the passes and of what is noted of their ends. -/
theorem filterMap {β : Type} {p : Entry → Option β} (record : ∀ r, p (.log r) = none)
    (rest : ∀ seconds, p (.wait seconds) = none) (flag : ∀ b, p (.ready b) = none)
    (laps : Laps env o n bound w rested last ending u w') :
    u.filterMap p = (rested ++ last.toList).flatMap fun v =>
      ((pass env o v).trace ++ notes o (pass env o v).ending).filterMap p := by
  have effects (t : Trace) := Trace.filterMap_effects record t
  induction laps with
  | cut => rfl
  | told => simp [flag]
  | denied free made => simp [made, effects, flag]
  | lost free made => simp [made, effects]
  | failed free made goesOn delivered accepted drawn waited others ih =>
    simp [made, effects, rest, ih]
  | succeeded free made waited others ih => simp [made, effects, rest, ih]

end Laps

end Operator

end MonitoringUpkeep
