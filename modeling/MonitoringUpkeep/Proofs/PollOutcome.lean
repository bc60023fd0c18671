import Mathlib.Data.List.Chain
import MonitoringUpkeep.Proofs.Amounts
import MonitoringUpkeep.Proofs.Looks

/-!
# How a poll ends

The looks of a poll form a chain: each but the last misses the condition, the clock is read before the
deadline, and the wait that follows is not cancelled. After the last look the poll ends, and how it does is
decided by that look alone, or by the reading of the clock, the wait or the stop token after it. A look at
which the condition holds ends the poll well, even if the deadline has passed or the token was set
meanwhile; the deadline counts only after a look that missed the condition, and the token before a look and
during a wait.
-/

namespace MonitoringUpkeep

/-- The failure with which an action ended, if it failed. -/
def Ending.failure? {α : Type} : Ending α → Option Failure
  | .failed f => some f
  | _ => none

namespace Poll

variable {ω : Type}

section
variable (env : Environment ω) (p : Poll) (condition : Action ω Bool) (deadline : Binary64)

/-- A look leads to the next one: it misses the condition, the clock is read before the deadline, and the
    wait that follows ends without the stop token being set. -/
def Leads (v next : ω) : Prop :=
  (condition v).ending.Misses ∧ ∃ now w seconds, env.now (condition v).world = (now, w) ∧
    deadline.le now = false ∧ pause p.interval (deadline.sub env.round now) = .ok seconds ∧
    env.wait seconds w = (.ok false, next)

/-- The failure of the latest of some looks that failed. -/
def latestFailure (looks : List ω) : Option Failure :=
  (looks.filterMap fun v => (condition v).ending.failure?).getLast?

/-- The ways in which a poll from a world fails after some looks, with the latest failure to look: the
    failure with which it ends, and the world that it leaves. -/
inductive GivesUp (latest : Option Failure) (start : ω) : List ω → Failure → ω → Prop
  /-- the last look failed for good, and its failure is passed on -/
  | final {looks v f} (last : looks.getLast? = some v) (failed : (condition v).ending = .failed f)
      (lasting : f.isRetryable = false) : GivesUp latest start looks f (condition v).world
  /-- the last look missed the condition, and the clock read after it is at the deadline or past it -/
  | late {looks v now w} (last : looks.getLast? = some v) (missed : (condition v).ending.Misses)
      (read : env.now (condition v).world = (now, w)) (passed : deadline.le now = true) :
      GivesUp latest start looks (.waitTimeout p.description p.timeout latest) w
  /-- the stop token was found set before the first look -/
  | unbegun (set : env.stopped start = true) :
      GivesUp latest start [] (.waitCancelled p.description) start
  /-- the stop token was found set before another look -/
  | told {looks v w} (last : looks.getLast? = some v) (leads : Leads env p condition deadline v w)
      (set : env.stopped w = true) : GivesUp latest start looks (.waitCancelled p.description) w
  /-- the stop token was found set at the end of the wait after the last look -/
  | interrupted {looks v now w₁ seconds w} (last : looks.getLast? = some v)
      (missed : (condition v).ending.Misses) (read : env.now (condition v).world = (now, w₁))
      (early : deadline.le now = false)
      (paused : pause p.interval (deadline.sub env.round now) = .ok seconds)
      (waited : env.wait seconds w₁ = (.ok true, w)) :
      GivesUp latest start looks (.waitCancelled p.description) w
  /-- there is no telling how long to wait after the last look -/
  | unpaused {looks v now w f} (last : looks.getLast? = some v) (missed : (condition v).ending.Misses)
      (read : env.now (condition v).world = (now, w)) (early : deadline.le now = false)
      (fails : pause p.interval (deadline.sub env.round now) = .error f) : GivesUp latest start looks f w
  /-- the wait after the last look fails -/
  | broken {looks v now w₁ seconds f w} (last : looks.getLast? = some v)
      (missed : (condition v).ending.Misses) (read : env.now (condition v).world = (now, w₁))
      (early : deadline.le now = false)
      (paused : pause p.interval (deadline.sub env.round now) = .ok seconds)
      (waited : env.wait seconds w₁ = (.error f, w)) : GivesUp latest start looks f w

end

variable {env : Environment ω} {p : Poll} {condition : Action ω Bool} {started deadline : Binary64}

theorem latestFailure_cons (v : ω) (looks : List ω) (last : Option Failure) :
    (latestFailure condition (v :: looks)).or last =
      (latestFailure condition looks).or ((condition v).ending.latest last) := by
  cases ended : (condition v).ending with
  | failed f =>
    have found : latestFailure condition (v :: looks) =
        some ((latestFailure condition looks).getD f) := by
      rw [latestFailure, List.filterMap_cons_some (by rw [ended]; rfl), List.getLast?_cons]
      rfl
    rw [found]
    cases latestFailure condition looks <;> rfl
  | done holds => simp [latestFailure, ended, Ending.failure?, Ending.latest]
  | unfinished => simp [latestFailure, ended, Ending.failure?, Ending.latest]

theorem exists_next_of_isChain {R : ω → ω → Prop} {looks : List ω} (chain : looks.IsChain R) :
    ∀ v ∈ looks.dropLast, ∃ next ∈ looks, R v next := by
  induction chain with
  | nil | singleton => nofun
  | @cons_cons v next looks leads others ih =>
    rw [List.dropLast_cons_cons]
    refine List.forall_mem_cons.mpr ⟨⟨next, by simp, leads⟩, fun u member => ?_⟩
    obtain ⟨after, among, follows⟩ := ih u member
    exact ⟨after, List.mem_cons_of_mem v among, follows⟩

/-- A look before the others does not change how a poll gives up after them. -/
theorem GivesUp.cons {latest : Option Failure} {v next : ω} {looks : List ω} {f : Failure} {w : ω}
    (given : GivesUp env p condition deadline latest next looks f w)
    (leads : Leads env p condition deadline v next) :
    GivesUp env p condition deadline latest v (v :: looks) f w := by
  cases given with
  | final last failed lasting => exact .final (getLast?_cons_of_some last) failed lasting
  | late last missed read passed => exact .late (getLast?_cons_of_some last) missed read passed
  | unbegun set => exact .told rfl leads set
  | told last follows set => exact .told (getLast?_cons_of_some last) follows set
  | interrupted last missed read early paused waited =>
    exact .interrupted (getLast?_cons_of_some last) missed read early paused waited
  | unpaused last missed read early fails =>
    exact .unpaused (getLast?_cons_of_some last) missed read early fails
  | broken last missed read early paused waited =>
    exact .broken (getLast?_cons_of_some last) missed read early paused waited

/-- A miss and a rest that is over lead to another look. -/
theorem Rests.leads {found : Ending Bool} {t u : Trace} {last : Option Failure} {v w next : ω}
    (rested : Rests env p deadline last w none u next) (looked : condition v = ⟨found, t, w⟩)
    (misses : found.Misses) : Leads env p condition deadline v next := by
  match rested with
  | .over read early paused waited =>
    rw [Leads, looked]
    exact ⟨misses, _, _, _, read, early, paused, waited⟩

namespace Looks

variable {n : Nat} {last : Option Failure} {w w' : ω} {looks : List ω} {ending : Ending Binary64}
  {t : Trace}

/-- No look starts while the stop token is set. -/
theorem free (run : Looks env p condition started deadline n last w looks ending t w') :
    ∀ v ∈ looks, env.stopped v = false := by
  induction run with
  | cut | cancelled => nofun
  | held free | failed free | endless free | halted free => exact List.forall_mem_singleton.mpr free
  | again free looked misses rested others ih => exact List.forall_mem_cons.mpr ⟨free, ih⟩

/-- The first look is at once, unless the token is set. -/
theorem head (run : Looks env p condition started deadline n last w looks ending t w')
    (some : 0 < n) : looks.head? = if env.stopped w then none else .some w := by
  cases run with
  | cut => exact absurd some (Nat.lt_irrefl 0)
  | cancelled set => simp [set]
  | held free | failed free | endless free | halted free | again free => simp [free]

theorem head_eq (run : Looks env p condition started deadline n last w looks ending t w') :
    ∀ v ∈ looks.head?, v = w := by
  cases run with
  | cut | cancelled => nofun
  | held | failed | endless | halted | again =>
    intro v first
    exact (Option.some.inj first).symm

/-- Each look leads to the next one. -/
theorem chain (run : Looks env p condition started deadline n last w looks ending t w') :
    looks.IsChain (Leads env p condition deadline) := by
  induction run with
  | cut | cancelled => exact .nil
  | held | failed | endless | halted => exact .singleton _
  | again free looked misses rested others ih =>
    refine .cons ih fun v first => ?_
    cases others.head_eq v first
    exact rested.leads looked misses

/-- A poll that fails gives up in one of the ways. -/
theorem givesUp (run : Looks env p condition started deadline n last w looks ending t w')
    {f : Failure} (failed : ending = .failed f) :
    GivesUp env p condition deadline ((latestFailure condition looks).or last) w looks f w' := by
  induction run with
  | cut | held | endless => cases failed
  | cancelled set =>
    cases failed
    exact .unbegun set
  | failed free looked lasting =>
    cases failed
    have left := congrArg Outcome.world looked
    dsimp only at left
    subst left
    exact .final rfl (by rw [looked]) lasting
  | @halted _ last v found t w₁ _ u w₂ free looked misses rested =>
    cases failed
    have left : (condition v).world = w₁ := by rw [looked]
    have missed : (condition v).ending.Misses := by rwa [looked]
    have latest : (latestFailure condition [v]).or last = found.latest last := by
      rw [latestFailure_cons v [] last, looked]
      rfl
    rw [latest]
    subst left
    cases rested with
    | late read passed => exact .late rfl missed read passed
    | unpaused read early fails => exact .unpaused rfl missed read early fails
    | broken read early paused waited => exact .broken rfl missed read early paused waited
    | stopped read early paused waited => exact .interrupted rfl missed read early paused waited
  | @again _ last v _ _ _ _ _ looks _ _ _ free looked misses rested others ih =>
    have latest : (latestFailure condition (v :: looks)).or last = _ := latestFailure_cons v looks last
    rw [latest, looked]
    exact (ih failed).cons (rested.leads looked misses)

/-- The rounds of a poll are used up by as many looks, or by one that does not end. -/
theorem lasts (run : Looks env p condition started deadline n last w looks ending t w')
    (endless : ending = .unfinished) :
    looks.length = n ∨ ∃ v, looks.getLast? = some v ∧ (condition v).ending = .unfinished := by
  induction run with
  | cut => exact .inl rfl
  | cancelled | held | failed | halted => cases endless
  | @endless _ _ v _ _ free looked => exact .inr ⟨v, rfl, by rw [looked]⟩
  | again free looked misses rested others ih =>
    rcases ih endless with used | ⟨v, isLast, unfinished⟩
    · exact .inl (congrArg (· + 1) used)
    · exact .inr ⟨v, getLast?_cons_of_some isLast, unfinished⟩

end Looks

/-- A property of worlds in which the stop token is set and stays set, whatever a poll does. -/
structure KeepsSet (env : Environment ω) (condition : Action ω Bool) (set : ω → Prop) : Prop where
  stopped : ∀ w, set w → env.stopped w = true
  looked : ∀ w, set w → set (condition w).world
  read : ∀ w, set w → set (env.now w).2
  waited : ∀ seconds w, set w → set (env.wait seconds w).2

/-- Where the token is set after a look and stays set, the look does not lead to another one. -/
theorem Leads.unset {set : ω → Prop} (keeps : KeepsSet env condition set) {v next : ω}
    (leads : Leads env p condition deadline v next) (free : env.stopped next = false) :
    ¬ set (condition v).world ∧ ¬ set (env.now (condition v).world).2 := by
  obtain ⟨-, now, w, seconds, read, -, -, waited⟩ := leads
  have unset : ¬ set (env.now (condition v).world).2 := fun stays => by
    have after := keeps.stopped _ (keeps.waited seconds _ stays)
    rw [read] at after
    dsimp only at after
    rw [waited, free] at after
    cases after
  exact ⟨fun stays => unset (keeps.read _ stays), unset⟩

/-- How a poll with a start and a deadline goes from a world: what its looks are, and that the way in
    which it ends follows from them. -/
structure Concludes (env : Environment ω) (p : Poll) (condition : Action ω Bool)
    (started deadline : Binary64) (w : ω) (looks : List ω) (x : Outcome ω Binary64) : Prop where
  /-- it looks at once, however short its time is, unless the token is set -/
  begins : 0 < env.rounds → looks.head? = if env.stopped w then none else some w
  /-- it looks again only after a miss before the deadline and a wait that was not cancelled -/
  chain : looks.IsChain (Leads env p condition deadline)
  free : ∀ v ∈ looks, env.stopped v = false
  /-- after a look during which the token was set for good there is no other one -/
  unset : ∀ set, KeepsSet env condition set → ∀ v ∈ looks.dropLast,
    ¬ set (condition v).world ∧ ¬ set (env.now (condition v).world).2
  /-- it ends well right after a look that found the condition to hold, with the time that passed -/
  returns : ∀ seconds, x.ending = .done seconds → ∃ v now, looks.getLast? = some v ∧
    (condition v).ending = .done true ∧ env.now (condition v).world = (now, x.world) ∧
    seconds = now.sub env.round started
  /-- a look that found the condition to hold ends it well -/
  held : (∃ v ∈ looks, (condition v).ending = .done true) → ∃ seconds, x.ending = .done seconds
  /-- it fails in one of the ways of giving up, with the failure of the latest look that failed -/
  fails : ∀ f, x.ending = .failed f →
    GivesUp env p condition deadline (latestFailure condition looks) w looks f x.world
  /-- a failure for good is passed on at once -/
  passes : ∀ v ∈ looks, ∀ f, (condition v).ending = .failed f → f.isRetryable = false →
    looks.getLast? = some v ∧ x.ending = .failed f ∧ x.world = (condition v).world
  /-- only as many looks as it is followed for, or one that does not end, leave it without an end -/
  lasts : x.ending = .unfinished → looks.length = env.rounds ∨
    ∃ v, looks.getLast? = some v ∧ (condition v).ending = .unfinished

theorem Looks.concludes {w w' : ω} {looks : List ω} {ending : Ending Binary64} {t u : Trace}
    (run : Looks env p condition started deadline env.rounds none w looks ending t w') :
    Concludes env p condition started deadline w looks ⟨ending, u, w'⟩ where
  begins := run.head
  chain := run.chain
  free := run.free
  unset set keeps v member := by
    obtain ⟨next, among, leads⟩ := exists_next_of_isChain run.chain v member
    exact leads.unset keeps (run.free next among)
  returns _ := run.returned
  held := fun ⟨v, member, holds⟩ => by
    by_contra undone
    exact run.unheld (fun seconds done => undone ⟨seconds, done⟩) v member holds
  fails f failed := by
    rw [← Option.or_none (o := latestFailure condition looks)]
    exact run.givesUp failed
  passes _ member _ := run.passes member
  lasts := run.lasts

/-- **Outcome of a poll.** However the condition, the clock, the waits and the stop token go, a poll
    whose timeout is a number concludes by its last look and what is read after it. The bound leaves
    out texts and the like, and integers beyond the range of the float format: for those the poll
    fails when it computes its deadline, before the first look. -/
theorem await_concludes (env : Environment ω) (p : Poll) (condition : Action ω Bool) {w w₁ : ω}
    {started timeout : Binary64} (read : env.now w = (started, w₁))
    (bounded : p.timeout.toReal env.round = .ok timeout) : ∃ looks,
      Concludes env p condition started (started.add env.round timeout) w₁ looks
        (p.await env condition w) := by
  rw [await_rounds read bounded]
  obtain ⟨looks, run⟩ := p.rounds_looks env condition started (started.add env.round timeout)
    env.rounds none w₁
  exact ⟨looks, run.concludes⟩

/-- A second is waited for a condition that cannot be looked at first, and then does not hold. -/
theorem await_concludes_missed :
    let env := Environment.clockwork 5
    let p : Poll := ⟨"thing", .int 1, .int 1⟩
    let condition : Action Nat Bool := fun n =>
      if n = 0 then (do let _ ← env.get .role "thing"; return true : Action Nat Bool) n
      else ⟨.done false, [], n⟩
    env.now 0 = (.finite 0, 0) ∧ p.timeout.toReal env.round = .ok (.finite 1) ∧
      (p.await env condition 0).ending = .failed (.waitTimeout "thing" (.int 1)
        (some (.api (.int 503) "Unavailable" .null "(503)\nReason: Unavailable\n"))) ∧
      ∃ looks, Concludes env p condition (.finite 0) (Binary64.add env.round (.finite 0) (.finite 1))
        0 looks (p.await env condition 0) := by
  intro env p condition
  have read : env.now 0 = (.finite 0, 0) := rfl
  have bounded : p.timeout.toReal env.round = .ok (.finite 1) := rfl
  refine ⟨read, bounded, ?_, await_concludes env p condition read bounded⟩
  with_unfolding_all rfl

end Poll

end MonitoringUpkeep
