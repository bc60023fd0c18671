import MonitoringUpkeep.Operator
import MonitoringUpkeep.Proofs.GateProtocol
import MonitoringUpkeep.Proofs.Keeping

/-!
# What the watch over the gate keeps

A relation of which the steps of an environment are, as far as the watch over the gate asks for them,
is kept by each part of the watch and by a change of the gate as a whole. What comes after the patch fails
only as the environment or the watch itself does: a refusal of the change comes before that.
-/

namespace MonitoringUpkeep

namespace Gate
open MonitoringUpkeep.Action

variable (g : Gate)

/-- The request by which the gate is read. -/
def clusterLook : Request := .get .hyperConverged g.clusterName g.space

/-- The requests by which the outcome of a change is watched. -/
inductive Watches : Request → Prop
  | quota : Watches g.quotaLook
  | deployments : Watches g.deploymentList
  | pods : Watches g.podList

/-- The requests of a change of the gate. -/
inductive Asks (enable : Value) : Request → Prop
  | nodes : Asks enable nodeList
  | patch : Asks enable (g.patchRequest enable)
  | watch {request} (watches : g.Watches request) : Asks enable request

/-- What a change does after the patch. -/
def follow {ω : Type} (env : Environment ω) (enable : Value) : Action ω Unit :=
  if enable.isBlank then g.awaitRemoved env
  else g.awaitAvailable env >>= fun _ => g.awaitExpected env

theorem set_eq {ω : Type} (env : Environment ω) (enable : Value) : g.set env enable =
    if enable.isBlank then g.patch env enable >>= fun _ => g.follow env enable
    else isSingleWorker env >>= fun single =>
      if single then Action.fail .singleWorker
      else g.patch env enable >>= fun _ => g.follow env enable := by
  unfold set follow awaitExpected
  split <;> rfl

variable {ω : Type} {env : Environment ω} {asks : Request → Prop} {T : ω → Trace → ω → Prop}
  {F : Failure → Prop} {enable : Value}

section Looks
variable (answers : env.Answers asks T F)
include answers

theorem keeps_quota? (asked : asks g.quotaLook) : Keeps T F (g.quota? env) := by
  refine answers.attempt (answers.send asked) (fun v => answers.pure (some v)) fun f allowed => ?_
  dsimp only
  split
  · exact answers.pure none
  · exact answers.fail allowed

theorem keeps_isRemoved (asked : asks g.quotaLook) : Keeps T F (g.isRemoved env) :=
  answers.bind (g.keeps_quota? answers asked) fun _ => answers.pure _

theorem keeps_isAvailable (asked : asks g.quotaLook) : Keeps T F (g.isAvailable env) := by
  refine answers.bind (g.keeps_quota? answers asked) fun found => ?_
  cases found with
  | none => exact answers.pure false
  | some v => exact answers.compute (v.failsOnly_reports _)

theorem keeps_workloadsReady (deployments : asks g.deploymentList) (pods : asks g.podList) :
    Keeps T F (g.workloadsReady env) := by
  refine answers.bind (answers.list deployments) fun found => ?_
  split
  · exact answers.pure false
  · refine answers.bind (answers.compute (Workloads.failsOnly_expectedPods _ _)) fun expected => ?_
    cases expected with
    | none => exact answers.pure false
    | some n => exact answers.bind (answers.list pods) fun _ => answers.pure _

theorem keeps_isSingleWorker (asked : asks nodeList) : Keeps T F (isSingleWorker env) :=
  answers.bind (answers.list asked) fun _ => answers.pure _

/-- Where every failure is of the sort, so are those of a try of the patch, which may be a refusal. -/
theorem keeps_tryPatch (any : ∀ f, F f) (asked : asks (g.patchRequest enable)) :
    Keeps T F (g.tryPatch env enable) := by
  refine answers.attempt (answers.send asked) (fun _ => answers.pure true) fun f _ => ?_
  cases f with
  | api status reason body text =>
    refine answers.bind (answers.ofExcept fun _ _ => any _) fun refused => ?_
    cases refused <;> exact answers.fail (any _)
  | _ => exact answers.fail (any _)

end Looks

variable (steps : env.Steps asks T F)
include steps

theorem keeps_awaitRemoved (asked : asks g.quotaLook) : Keeps T F (g.awaitRemoved env) :=
  steps.watch _ _ (g.keeps_isRemoved steps.toAnswers asked)

theorem keeps_awaitAvailable (asked : asks g.quotaLook) : Keeps T F (g.awaitAvailable env) :=
  steps.watch _ _ (g.keeps_isAvailable steps.toAnswers asked)

theorem keeps_awaitWorkloads (deployments : asks g.deploymentList) (pods : asks g.podList) :
    Keeps T F (g.awaitWorkloads env) :=
  steps.watch _ _ (g.keeps_workloadsReady steps.toAnswers deployments pods)

/-- What comes after the patch fails only as the environment or the watch itself does. -/
theorem keeps_follow (asked : ∀ request, g.Watches request → asks request) :
    Keeps T F (g.follow env enable) := by
  unfold follow
  split
  · exact g.keeps_awaitRemoved steps (asked _ .quota)
  · refine steps.bind (g.keeps_awaitAvailable steps (asked _ .quota)) fun _ =>
      steps.bind (steps.compute (Value.failsOnly_isBelow _ _)) fun more => ?_
    cases more with
    | true => exact g.keeps_awaitWorkloads steps (asked _ .deployments) (asked _ .pods)
    | false => exact steps.pure ()

theorem keeps_isEnabled (asked : asks g.clusterLook) : Keeps T F (g.isEnabled env) :=
  steps.bind (steps.send asked) fun _ => steps.bind (steps.compute (Value.failsOnly_member _ _))
    fun _ => steps.bind (steps.compute (Value.failsOnly_member _ _)) fun _ =>
    steps.bind (steps.compute (Value.failsOnly_member _ _)) fun _ => steps.pure _

section Changes
variable (any : ∀ f, F f)
include any

theorem keeps_patch (asked : asks (g.patchRequest enable)) : Keeps T F (g.patch env enable) :=
  steps.bind (steps.watch _ _ (g.keeps_tryPatch steps.toAnswers any asked)) fun _ => steps.record _ _ _

theorem keeps_set (asked : ∀ request, g.Asks enable request → asks request) :
    Keeps T F (g.set env enable) := by
  have changed : Keeps T F (g.patch env enable >>= fun _ => g.follow env enable) :=
    steps.bind (g.keeps_patch steps any (asked _ .patch)) fun _ =>
      g.keeps_follow steps fun request watches => asked request (.watch watches)
  rw [set_eq]
  split
  · exact changed
  · refine steps.bind (keeps_isSingleWorker steps.toAnswers (asked _ .nodes)) fun single => ?_
    cases single with
    | true => exact steps.fail (any _)
    | false => exact changed

end Changes

end Gate

/-- The gate of an operator is read, and changed if it is not as wanted. -/
theorem Operator.keeps_applyGate {ω : Type} {env : Environment ω} {asks : Request → Prop}
    {T : ω → Trace → ω → Prop} {F : Failure → Prop} (steps : env.Steps asks T F) (o : Operator)
    (any : ∀ f, F f) (asked : ∀ g ∈ o.gate, ∀ request,
      (request = g.clusterLook ∨ ∃ enable, g.Asks enable request) → asks request) :
    Action.Keeps T F (Operator.applyGate env o) := by
  unfold applyGate
  split
  · rename_i g wanted given _
    refine steps.bind (g.keeps_isEnabled steps (asked g given _ (.inl rfl))) fun enabled => ?_
    split
    · exact steps.record _ _ _
    · exact g.keeps_set steps any fun request asks => asked g given request (.inr ⟨_, asks⟩)
  · exact steps.pure ()

end MonitoringUpkeep
