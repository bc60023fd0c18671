import MonitoringUpkeep.Gate
import MonitoringUpkeep.Proofs.Effects

/-!
# What an action keeps

A relation between two worlds and what is done between them is kept by an action when it holds of each
of its runs. It has to hold of the primitive steps of an environment and must not break when runs are
chained; then polls keep it whose looks do. The failures of the runs are confined along with the
relation: they are answers of the environment, or arise in the poll itself.
-/

namespace MonitoringUpkeep

/-! ## Failures of computations -/

/-- The failures that arise in the watch over the gate itself: a value of the wrong shape or size, and a
    wait that ended without its condition. -/
def Failure.OfWatch : Failure → Prop
  | .misfit _ | .overflow _ | .waitTimeout .. | .waitCancelled _ => True
  | _ => False

/-- A computation that fails, if at all, in a given way. -/
def FailsOnly {α : Type} (F : Failure → Prop) (x : Except Failure α) : Prop :=
  ∀ f, x = .error f → F f

namespace FailsOnly

variable {α β : Type} {F : Failure → Prop}

theorem ok (a : α) : FailsOnly F (.ok a) := nofun

theorem pure (a : α) : FailsOnly F (Pure.pure a : Except Failure α) := nofun

theorem error {f : Failure} (allowed : F f) : FailsOnly F (.error f : Except Failure α) := by
  intro g same
  cases same
  exact allowed

theorem bind {x : Except Failure α} {next : α → Except Failure β} (first : FailsOnly F x)
    (others : ∀ a, FailsOnly F (next a)) : FailsOnly F (x >>= next) := by
  cases x with
  | ok a => exact others a
  | error f => exact error (first f rfl)

theorem mono {F' : Failure → Prop} {x : Except Failure α} (fails : FailsOnly F x)
    (weaker : ∀ f, F f → F' f) : FailsOnly F' x := fun f failed => weaker f (fails f failed)

end FailsOnly

namespace Value

theorem failsOnly_member (v : Value) (key : String) : FailsOnly Failure.OfWatch (v.member key) := by
  cases v with
  | obj fs => exact .ok _
  | _ => exact .error trivial

theorem failsOnly_items (v : Value) : FailsOnly Failure.OfWatch v.items := by
  cases v with
  | arr vs => exact .ok _
  | obj fs => exact .ok _
  | str s => exact .ok _
  | _ => exact .error trivial

theorem failsOnly_realOfInt (round : Rat → Binary64) (n : Int) :
    FailsOnly Failure.OfWatch (realOfInt round n) := by
  unfold realOfInt
  split
  · exact .error trivial
  · exact .ok _

theorem failsOnly_toReal (round : Rat → Binary64) (v : Value) :
    FailsOnly Failure.OfWatch (v.toReal round) := by
  cases v with
  | real x => exact .ok x
  | int n => exact failsOnly_realOfInt round n
  | bool b => exact failsOnly_realOfInt round _
  | _ => exact .error trivial

theorem failsOnly_exact (v : Value) : FailsOnly Failure.OfWatch v.exact := by
  cases v with
  | real x => exact .ok x
  | int n => exact .ok _
  | bool b => exact .ok _
  | _ => exact .error trivial

theorem failsOnly_isBelow (a b : Value) : FailsOnly Failure.OfWatch (a.isBelow b) :=
  .bind (failsOnly_exact a) fun _ => .bind (failsOnly_exact b) fun _ => .pure _

theorem failsOnly_plus (a b : Value) : FailsOnly Failure.OfWatch (a.plus b) := by
  unfold plus
  split
  · exact .ok _
  · exact .bind (failsOnly_toReal _ _) fun _ => .pure _
  · split
    · exact .bind (failsOnly_realOfInt _ _) fun _ => .pure _
    · exact .error trivial
  · split
    · exact .ok _
    · exact .error trivial

theorem failsOnly_go (type : Value) (conditions : List Value) :
    FailsOnly Failure.OfWatch (reports.go type conditions) := by
  induction conditions with
  | nil => exact .pure false
  | cons c rest ih =>
    refine .bind (failsOnly_member c _) fun found => ?_
    split
    · exact .bind (failsOnly_member c _) fun _ => .pure _
    · exact ih

theorem failsOnly_reports (v type : Value) : FailsOnly Failure.OfWatch (v.reports type) :=
  .bind (failsOnly_member v _) fun _ => .bind (failsOnly_member _ _) fun _ =>
    .bind (failsOnly_items _) fun _ => failsOnly_go type _

end Value

theorem Workloads.failsOnly_expectedPods (deployments : List Value) (total : Value) :
    FailsOnly Failure.OfWatch (expectedPods deployments total) := by
  induction deployments generalizing total with
  | nil => exact .ok _
  | cons d rest ih =>
    refine .bind (d.failsOnly_member _) fun _ => .bind (Value.failsOnly_member _ _) fun _ =>
      .bind (Value.failsOnly_member _ _) fun _ => ?_
    dsimp only
    split
    · exact .bind (Value.failsOnly_plus _ _) fun _ => ih _
    · exact .pure none

theorem Poll.failsOnly_pause (interval : Value) (remaining : Binary64) :
    FailsOnly Failure.OfWatch (pause interval remaining) := by
  refine .bind (Value.failsOnly_isBelow _ _) fun below => ?_
  cases below <;> exact .pure _

/-! ## The judgement and its rules -/

/-- Every run of the action is of the relation `T`, and fails, if at all, as `F` allows. -/
def Action.Keeps {ω α : Type} (T : ω → Trace → ω → Prop) (F : Failure → Prop) (x : Action ω α) : Prop :=
  ∀ w, T w (x w).trace (x w).world ∧ ∀ f, (x w).ending = .failed f → F f

/-- The requests of a given sort to an environment are of a relation that chaining does not break, and
    their failures and those of the watch itself are of a given sort. -/
structure Environment.Answers {ω : Type} (env : Environment ω) (asks : Request → Prop)
    (T : ω → Trace → ω → Prop) (F : Failure → Prop) : Prop where
  rest : ∀ w, T w [] w
  chain : ∀ {w t w' u w''}, T w t w' → T w' u w'' → T w (t ++ u) w''
  call : ∀ request, asks request → ∀ w,
    T w [.call request (env.reply request w).1] (env.reply request w).2
  refused : ∀ request, asks request → ∀ w f, (env.reply request w).1 = .error f → F f
  own : ∀ f, f.OfWatch → F f

/-- All steps of an environment that a watch takes are of such a relation, and fail in such a way. -/
structure Environment.Steps {ω : Type} (env : Environment ω) (asks : Request → Prop)
    (T : ω → Trace → ω → Prop) (F : Failure → Prop) : Prop extends env.Answers asks T F where
  clock : ∀ w, T w [] (env.now w).2
  wait : ∀ seconds w, T w [.wait seconds] (env.wait seconds w).2
  log : ∀ record w, T w [.log record] w
  measured : ∀ condition seconds w, T w [.measured condition seconds] w
  broken : ∀ seconds w f, (env.wait seconds w).1 = .error f → F f

namespace Environment.Answers
open MonitoringUpkeep.Action

variable {ω α β : Type} {env : Environment ω} {asks : Request → Prop} {T : ω → Trace → ω → Prop}
  {F : Failure → Prop} (steps : env.Answers asks T F)
include steps

theorem pure (a : α) : Keeps T F (Pure.pure a : Action ω α) := fun w => ⟨steps.rest w, nofun⟩

theorem fail {f : Failure} (allowed : F f) : Keeps T F (Action.fail f : Action ω α) := by
  refine fun w => ⟨steps.rest w, fun g failed => ?_⟩
  cases failed
  exact allowed

theorem unfinished : Keeps T F (Action.unfinished : Action ω α) := fun w => ⟨steps.rest w, nofun⟩

theorem ofExcept {x : Except Failure α} (fails : FailsOnly F x) :
    Keeps T F (Action.ofExcept x : Action ω α) := by
  cases x with
  | ok a => exact steps.pure a
  | error f => exact steps.fail (fails f rfl)

/-- A computation of the watch itself. -/
theorem compute {x : Except Failure α} (fails : FailsOnly Failure.OfWatch x) :
    Keeps T F (Action.ofExcept x : Action ω α) := steps.ofExcept (fails.mono steps.own)

theorem bind {x : Action ω α} {next : α → Action ω β} (first : Keeps T F x)
    (others : ∀ a, Keeps T F (next a)) : Keeps T F (x >>= next) := by
  intro w
  obtain ⟨kept, fails⟩ := first w
  rcases ran : x w with ⟨ending, t, w'⟩
  rw [ran] at kept fails
  cases ending with
  | done a =>
    obtain ⟨later, failsLater⟩ := others a w'
    rw [bind_done ran]
    exact ⟨steps.chain kept later, failsLater⟩
  | failed f =>
    rw [bind_failed ran]
    refine ⟨kept, fun g failed => ?_⟩
    cases failed
    exact fails f rfl
  | unfinished =>
    rw [bind_unfinished ran]
    exact ⟨kept, nofun⟩

/-- What follows an attempt knows how the attempt failed. -/
theorem attempt {x : Action ω α} {next : Except Failure α → Action ω β} (first : Keeps T F x)
    (done : ∀ a, Keeps T F (next (.ok a))) (failed : ∀ f, F f → Keeps T F (next (.error f))) :
    Keeps T F (Action.attempt x >>= next) := by
  intro w
  obtain ⟨kept, fails⟩ := first w
  rcases ran : x w with ⟨ending, t, w'⟩
  rw [ran] at kept fails
  cases ending with
  | done a =>
    obtain ⟨later, failsLater⟩ := done a w'
    rw [bind_done (attempt_done ran)]
    exact ⟨steps.chain kept later, failsLater⟩
  | failed f =>
    obtain ⟨later, failsLater⟩ := failed f (fails f rfl) w'
    rw [bind_done (attempt_failed ran)]
    exact ⟨steps.chain kept later, failsLater⟩
  | unfinished =>
    rw [bind_unfinished (attempt_unfinished ran)]
    exact ⟨kept, nofun⟩

theorem send {request : Request} (asked : asks request) : Keeps T F (env.send request) := by
  intro w
  have kept := steps.call request asked w
  have refused := steps.refused request asked w
  rcases sent : env.reply request w with ⟨reply, w'⟩
  rw [sent] at kept refused
  cases reply with
  | ok v =>
    rw [send_done sent]
    exact ⟨kept, nofun⟩
  | error f =>
    rw [send_failed sent]
    refine ⟨kept, fun g failed => ?_⟩
    cases failed
    exact refused f rfl

theorem list {kind : Kind} {space selector : Value} (asked : asks (.list kind space selector)) :
    Keeps T F (env.list kind space selector) := by
  refine steps.bind (steps.send asked) fun v => ?_
  cases v with
  | arr items => exact steps.pure items
  | _ => exact steps.fail (steps.own _ trivial)

end Environment.Answers

namespace Environment.Steps
open MonitoringUpkeep.Action

variable {ω α β : Type} {env : Environment ω} {asks : Request → Prop} {T : ω → Trace → ω → Prop}
  {F : Failure → Prop} (steps : env.Steps asks T F)
include steps

theorem record (level : Int) (logger message : String) (failure : Option Failure := none) :
    Keeps T F (Action.log level logger message failure : Action ω Unit) :=
  fun w => ⟨steps.log _ w, nofun⟩

theorem now : Keeps T F env.clock := fun w => ⟨steps.clock w, nofun⟩

theorem isStopped : Keeps T F env.isStopped := fun w => ⟨steps.rest w, nofun⟩

theorem sleep (seconds : Value) : Keeps T F (env.sleep seconds) := by
  intro w
  have kept := steps.wait seconds w
  have broken := steps.broken seconds w
  rcases waited : env.wait seconds w with ⟨answer, w'⟩
  rw [waited] at kept broken
  cases answer with
  | ok set =>
    rw [sleep_done waited]
    exact ⟨kept, nofun⟩
  | error f =>
    rw [sleep_failed waited]
    refine ⟨kept, fun g failed => ?_⟩
    cases failed
    exact broken f rfl

/-! ## Polls -/

theorem waitOn (p : Poll) (deadline : Binary64) (last : Option Failure) {again : Action ω Binary64}
    (later : Keeps T F again) : Keeps T F (p.waitOn env deadline last again) := by
  refine steps.bind steps.now fun now => ?_
  split
  · exact steps.fail (steps.own _ trivial)
  · refine steps.bind (steps.compute (Poll.failsOnly_pause _ _)) fun seconds =>
      steps.bind (steps.sleep seconds) fun set => ?_
    cases set with
    | true => exact steps.fail (steps.own _ trivial)
    | false => exact later

theorem rounds (p : Poll) {condition : Action ω Bool} (look : Keeps T F condition)
    (started deadline : Binary64) (n : Nat) (last : Option Failure) :
    Keeps T F (p.rounds env condition started deadline n last) := by
  induction n generalizing last with
  | zero => exact steps.unfinished
  | succ n ih =>
    refine steps.bind steps.isStopped fun set => ?_
    cases set with
    | true => exact steps.fail (steps.own _ trivial)
    | false =>
      refine steps.attempt look (fun holds => ?_) fun f allowed => ?_
      · cases holds with
        | true => exact steps.bind steps.now fun _ => steps.pure _
        | false => exact steps.waitOn p deadline last (ih last)
      · dsimp only
        split
        · exact steps.bind (steps.record _ _ _) fun _ => steps.waitOn p deadline (some f) (ih (some f))
        · exact steps.fail allowed

theorem watch (measure : GateCondition) (p : Poll) {condition : Action ω Bool}
    (look : Keeps T F condition) : Keeps T F (Gate.watch env measure p condition) :=
  steps.bind (steps.bind steps.now fun _ =>
    steps.bind (steps.compute (Value.failsOnly_toReal _ _)) fun _ =>
    steps.rounds p look _ _ _ none) fun _ => fun w => ⟨steps.measured _ _ w, nofun⟩

end Environment.Steps

end MonitoringUpkeep
