import MonitoringUpkeep.Gate
import MonitoringUpkeep.Proofs.Looks
import MonitoringUpkeep.Proofs.Reading

/-!
# Looks of the gate

What each look of the gate asks of the cluster, and what the replies were when a look found its
condition to hold: a try of the patch and a look at the quota are one call each, and a look at the
workloads is a round of at most two. Whatever is watched, the calls are those of the looks
(`Gate.watched`).
-/

namespace MonitoringUpkeep

/-- The first condition of a type that an object reports has the status true. -/
def Value.Affirms (v : Value) (type : Value) : Prop := ∃ before c after,
  v.lookup ["status", "conditions"] = .arr (before ++ c :: after) ∧
    (∀ b ∈ before, ¬ b.lookup ["type"] ≈ type) ∧ c.lookup ["type"] ≈ type ∧
    (c.lookup ["status"]).display = "True"

namespace Value

/-- Conditions among which the first of a type has the status true. -/
theorem go_affirms {type : Value} {conditions : List Value}
    (reported : reports.go type conditions = .ok true) : ∃ before c after,
      conditions = before ++ c :: after ∧ (∃ fs, c = .obj fs) ∧
      (∀ b ∈ before, ¬ b.lookup ["type"] ≈ type) ∧ c.lookup ["type"] ≈ type ∧
      (c.lookup ["status"]).display = "True" := by
  induction conditions with
  | nil => cases reported
  | cons c rest ih =>
    simp only [reports.go, bind_ok_iff, member_ok_iff] at reported
    obtain ⟨_, ⟨fs, rfl, rfl⟩, reported⟩ := reported
    split at reported
    · rename_i matching
      have shown : ((Fields.getD fs "status").display == "True") = true :=
        pure_ok_iff.mp reported
      exact ⟨[], .obj fs, rest, rfl, ⟨fs, rfl⟩, List.forall_mem_nil _, matching,
        eq_of_beq shown⟩
    · rename_i other
      obtain ⟨before, d, after, rfl, object, earlier, found⟩ := ih reported
      exact ⟨.obj fs :: before, d, after, rfl, object, List.forall_mem_cons.mpr ⟨other, earlier⟩,
        found⟩

theorem reports_affirms {v type : Value} (reported : v.reports type = .ok true) :
    v.Affirms type := by
  simp only [reports, bind_ok_iff] at reported
  obtain ⟨_, reached, _, found, items, read, reported⟩ := reported
  obtain ⟨before, c, after, rfl, object, facts⟩ := go_affirms reported
  exact ⟨before, c, after, lookup_of_items reached found read (by simp) object, facts⟩

end Value

namespace Failure

/-- The cluster refuses a change in a way that asking again cannot change: it answers with the status
    400, 403 or 422. -/
def Refuses : Failure → Prop
  | .api status .. => status ≈ .int 400 ∨ status ≈ .int 403 ∨ status ≈ .int 422
  | _ => False

/-- The grounds of an answer of the cluster: its body or, without one, its reason. -/
def grounds : Failure → Value
  | .api _ reason body _ => body.orElse reason
  | _ => .null

theorem statusAmong_rejections {status : Value} (reason body : Value) (text : String) :
    statusAmong status Gate.rejections = .ok true ↔ (Failure.api status reason body text).Refuses := by
  cases status with
  | arr items | obj fields =>
    simp [statusAmong, Refuses, Value.agrees_iff, Value.meaning]
  | _ => simp [statusAmong, Gate.rejections, Refuses]

end Failure

namespace Gate
open MonitoringUpkeep.Action

/-- The request by which the nodes that can run workloads are listed. -/
def nodeList : Request := .list .node .null workerSelector

variable (g : Gate) (enable : Value)

def patchRequest : Request := .patch .hyperConverged g.clusterName (operations enable) g.space

/-- The request by which the quota is looked at. -/
def quotaLook : Request := .get .tenantQuota g.quotaName .null

/-- The request by which the deployments of the workloads are listed. -/
def deploymentList : Request := .list .deployment g.space workloadSelector

/-- The request by which the pods of the workloads are listed. -/
def podList : Request := .list .pod g.space workloadSelector

/-- What the failure of a try of the patch is taken for. -/
def verdict : Failure → Failure
  | .api status reason body text =>
    match Failure.statusAmong status rejections with
    | .ok true => .gateRejected (body.orElse reason)
    | .ok false => .api status reason body text
    | .error f => f
  | f => f

theorem verdict_of_refuses {f : Failure} (refuses : f.Refuses) :
    verdict f = .gateRejected f.grounds := by
  cases f with
  | api status reason body text =>
    have among := (Failure.statusAmong_rejections reason body text).mpr refuses
    simp only [verdict, among]
    rfl
  | _ => cases refuses

theorem of_verdict_retryable {f : Failure} (retryable : (verdict f).isRetryable = true) :
    f.isRetryable = true ∧ ¬ f.Refuses := by
  refine ⟨?_, fun refuses => ?_⟩
  · cases f with
    | api status reason body text => rfl
    | _ => exact retryable
  · rw [verdict_of_refuses refuses] at retryable
    cases retryable

variable {ω : Type} (env : Environment ω) (w : ω)

/-- A try of the patch is one call. -/
theorem tryPatch_call :
    (tryPatch env g enable w).trace.calls =
        [(g.patchRequest enable, (env.reply (g.patchRequest enable) w).1)] ∧
      (tryPatch env g enable w).ending = match (env.reply (g.patchRequest enable) w).1 with
        | .ok _ => .done true
        | .error f => .failed (verdict f) := by
  rcases sent : env.reply (g.patchRequest enable) w with ⟨reply, w'⟩
  have got : attempt (env.send (.patch .hyperConverged g.clusterName (operations enable) g.space)) w =
      ⟨.done reply, [.call (g.patchRequest enable) reply], w'⟩ := Environment.attempt_send sent
  rw [tryPatch, bind_done got]
  cases reply with
  | ok v => exact ⟨rfl, rfl⟩
  | error f =>
    cases f with
    | api status reason body text =>
      cases among : Failure.statusAmong status rejections with
      | error e =>
        simp only [verdict, among]
        exact ⟨rfl, rfl⟩
      | ok refused =>
        cases refused <;> simp only [verdict, among] <;> exact ⟨rfl, rfl⟩
    | _ => exact ⟨rfl, rfl⟩

/-- A reading of the quota is one call, and what is not found is none. -/
theorem quota?_call {reply : Reply} {w' : ω} (looked : env.reply g.quotaLook w = (reply, w')) :
    quota? env g w = ⟨match reply with
      | .ok v => .done (some v)
      | .error f => if f.isNotFound then .done none else .failed f,
      [.call g.quotaLook reply], w'⟩ := by
  have got : attempt (env.get .tenantQuota g.quotaName) w =
      ⟨.done reply, [.call g.quotaLook reply], w'⟩ := Environment.attempt_send looked
  rw [quota?, bind_done got]
  cases reply with
  | ok v => rfl
  | error f => cases missing : f.isNotFound <;> simp only [missing] <;> rfl

/-- A look whether the quota is available is one call. -/
theorem isAvailable_call :
    (isAvailable env g w).trace.calls = [(g.quotaLook, (env.reply g.quotaLook w).1)] ∧
      ((isAvailable env g w).ending = .done true → ∃ v,
        (env.reply g.quotaLook w).1 = .ok v ∧ v.Affirms (.str available)) := by
  rcases looked : env.reply g.quotaLook w with ⟨reply, w'⟩
  have got := quota?_call g env w looked
  cases reply with
  | ok v =>
    rw [isAvailable, bind_done got]
    cases reported : v.reports (.str available) with
    | error f =>
      simp only [reported]
      exact ⟨rfl, nofun⟩
    | ok holds =>
      simp only [reported]
      refine ⟨rfl, fun done => ⟨v, rfl, Value.reports_affirms ?_⟩⟩
      cases done
      exact reported
  | error f =>
    cases missing : f.isNotFound with
    | true =>
      simp only [missing, if_true] at got
      rw [isAvailable, bind_done got]
      exact ⟨rfl, nofun⟩
    | false =>
      simp only [missing, Bool.false_eq_true, if_false] at got
      rw [isAvailable, bind_failed got]
      exact ⟨rfl, nofun⟩

/-- A look whether the quota is removed is one call. -/
theorem isRemoved_call :
    (isRemoved env g w).trace.calls = [(g.quotaLook, (env.reply g.quotaLook w).1)] ∧
      ((isRemoved env g w).ending = .done true → ∃ f,
        (env.reply g.quotaLook w).1 = .error f ∧ f.isNotFound = true) := by
  rcases looked : env.reply g.quotaLook w with ⟨reply, w'⟩
  have got := quota?_call g env w looked
  cases reply with
  | ok v =>
    rw [isRemoved, bind_done got]
    exact ⟨rfl, nofun⟩
  | error f =>
    cases missing : f.isNotFound with
    | true =>
      simp only [missing, if_true] at got
      rw [isRemoved, bind_done got]
      exact ⟨rfl, fun _ => ⟨f, rfl, missing⟩⟩
    | false =>
      simp only [missing, Bool.false_eq_true, if_false] at got
      rw [isRemoved, bind_failed got]
      exact ⟨rfl, nofun⟩

/-- A round of looks at the workloads lists the deployments and, if that went well, can list the pods
    as well. -/
def IsRound (r : List (Request × Reply)) : Prop :=
  (∃ reply, r = [(g.deploymentList, reply)]) ∨
    ∃ deployments reply, r = [(g.deploymentList, .ok (.arr deployments)), (g.podList, reply)]

/-- A round in which the workloads are complete: as many deployments as expected, and as many pods as
    they ask for. -/
def IsComplete (r : List (Request × Reply)) : Prop := ∃ deployments pods wanted,
  r = [(g.deploymentList, .ok (.arr deployments)), (g.podList, .ok (.arr pods))] ∧
    Value.int deployments.length ≈ g.expectedDeployments ∧
    Workloads.expectedPods deployments (.int 0) = .ok (some wanted) ∧
    Value.int pods.length ≈ wanted

/-- A look at the workloads is a round, and one that finds them complete is a complete round. -/
theorem workloadsReady_round : g.IsRound (workloadsReady env g w).trace.calls ∧
    ((workloadsReady env g w).ending = .done true →
      g.IsComplete (workloadsReady env g w).trace.calls) := by
  rcases sent : env.reply g.deploymentList w with ⟨reply, w₁⟩
  rcases Environment.list_call sent with ⟨deployments, rfl, listed⟩ | ⟨_, f, failed⟩
  · rw [workloadsReady, bind_done listed]
    by_cases many : Value.int deployments.length ≈ g.expectedDeployments
    · simp only [many, not_true, if_false]
      cases asked : Workloads.expectedPods deployments (.int 0) with
      | error f => exact ⟨.inl ⟨_, rfl⟩, nofun⟩
      | ok wanted? =>
        cases wanted? with
        | none => exact ⟨.inl ⟨_, rfl⟩, nofun⟩
        | some wanted =>
          have known : (ofExcept (.ok (some wanted)) : Action ω (Option Value)) w₁ =
            ⟨.done (some wanted), [], w₁⟩ := rfl
          rcases sent : env.reply g.podList w₁ with ⟨reply, w₂⟩
          rcases Environment.list_call sent with ⟨pods, rfl, listed⟩ | ⟨_, f, failed⟩
          · rw [bind_done known]
            dsimp only
            rw [bind_done listed]
            refine ⟨.inr ⟨deployments, _, rfl⟩, fun done => ?_⟩
            have enough : decide (Value.int pods.length ≈ wanted) = true := Ending.done.inj done
            exact ⟨deployments, pods, wanted, rfl, many, asked, of_decide_eq_true enough⟩
          · rw [bind_done known]
            dsimp only
            rw [bind_failed failed]
            exact ⟨.inr ⟨deployments, _, rfl⟩, nofun⟩
    · simp only [many, not_false_eq_true, if_true]
      exact ⟨.inl ⟨_, rfl⟩, nofun⟩
  · rw [workloadsReady, bind_failed failed]
    exact ⟨.inl ⟨_, rfl⟩, nofun⟩

/-- A phase of looks at a condition: its calls are those of the looks, all but the last of which
    miss the condition, and it ends well only after the last look has found the condition to hold. -/
structure Watched (condition : Action ω Bool) (looks : List ω) (x : Outcome ω Unit) : Prop where
  calls : x.trace.calls = looks.flatMap fun v => (condition v).trace.calls
  missed : ∀ v ∈ looks.dropLast, (condition v).ending.Misses
  held : x.ending = .done () → ∃ v, looks.getLast? = some v ∧ (condition v).ending = .done true
  failed : ∀ v ∈ looks, ∀ f, (condition v).ending = .failed f → f.isRetryable = false →
    x.ending = .failed f

theorem watched (measure : GateCondition) (p : Poll) (condition : Action ω Bool) :
    ∃ looks, Watched condition looks (watch env measure p condition w) := by
  rcases p.await_looks env condition w with ⟨f, w₁, ends⟩ | ⟨started, deadline, w₁, looks, run⟩
  · refine ⟨[], ?_⟩
    rw [watch, bind_failed ends]
    exact ⟨rfl, nofun, nofun, nofun⟩
  rcases ends : p.await env condition w with ⟨ending, t, w₂⟩
  rw [ends] at run
  have calls := run.calls
  rw [Trace.calls_effects] at calls
  refine ⟨looks, ?_⟩
  cases ending with
  | done seconds =>
    rw [watch, bind_done ends]
    refine ⟨?_, run.missed, fun _ => run.holds rfl, ?_⟩
    · rw [← calls]
      exact (Trace.calls_append ..).trans (List.append_nil _)
    · intro v member f fails final
      cases run.fails member fails final
  | failed f =>
    rw [watch, bind_failed ends]
    refine ⟨calls, run.missed, nofun, ?_⟩
    intro v member f fails final
    cases run.fails member fails final
    rfl
  | unfinished =>
    rw [watch, bind_unfinished ends]
    refine ⟨calls, run.missed, nofun, ?_⟩
    intro v member f fails final
    cases run.fails member fails final

/-- A wait that does not end well has not found its condition to hold. -/
theorem watch_unheld (measure : GateCondition) (p : Poll) (condition : Action ω Bool)
    (undone : (watch env measure p condition w).ending ≠ .done ()) : ∃ looks : List ω,
    ((watch env measure p condition w).trace.calls = looks.flatMap fun v => (condition v).trace.calls) ∧
      ∀ v ∈ looks, (condition v).ending ≠ .done true := by
  rcases p.await_looks env condition w with ⟨f, w₁, ends⟩ | ⟨started, deadline, w₁, looks, run⟩
  · refine ⟨[], ?_, nofun⟩
    rw [watch, bind_failed ends]
    rfl
  rcases ends : p.await env condition w with ⟨ending, t, w₂⟩
  rw [ends] at run
  have calls := run.calls
  rw [Trace.calls_effects] at calls
  cases ending with
  | done seconds =>
    rw [watch, bind_done ends] at undone
    exact absurd rfl undone
  | failed f =>
    rw [watch, bind_failed ends]
    exact ⟨looks, calls, run.unheld nofun⟩
  | unfinished =>
    rw [watch, bind_unfinished ends]
    exact ⟨looks, calls, run.unheld nofun⟩

/-- Looks that are one call each make the same call again and again. -/
theorem flatMap_call {condition : Action ω Bool} {request : Request}
    (one : ∀ v, (condition v).trace.calls = [(request, (env.reply request v).1)]) (looks : List ω) :
    (looks.flatMap fun v => (condition v).trace.calls) =
      (looks.map fun v => (env.reply request v).1).map (request, ·) := by
  simp only [one, List.map_map]
  exact (List.map_eq_flatMap ..).symm

/-- Where each look that finds the condition to hold has a reply of a kind, a phase that ends well has
    one as its last. -/
theorem Watched.answered {condition : Action ω Bool} {looks : List ω} {x : Outcome ω Unit}
    (watched : Watched condition looks x) (request : Request) (Good : Reply → Prop)
    (good : ∀ v, (condition v).ending = .done true → Good (env.reply request v).1)
    (done : x.ending = .done ()) :
    ∃ reply, (looks.map fun v => (env.reply request v).1).getLast? = some reply ∧ Good reply := by
  obtain ⟨v, last, held⟩ := watched.held done
  exact ⟨_, by rw [List.getLast?_map, last, Option.map_some], good v held⟩

end Gate

end MonitoringUpkeep
