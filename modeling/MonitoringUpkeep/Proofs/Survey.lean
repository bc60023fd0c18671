import MonitoringUpkeep.Proofs.Confinement
import MonitoringUpkeep.Proofs.References
import MonitoringUpkeep.Proofs.Visit

/-!
# Passes of the operator

After the managed objects a pass looks at the cluster object and writes its status back if the
references in it have changed. There are six ways in which that can go, and `Survey` says all that it
does in any environment. A pass is a walk over the managed objects and, where that ends well, a
survey.
-/

namespace MonitoringUpkeep

namespace Operator

variable {ω : Type}

/-- The request by which a pass looks at the cluster object. -/
def lookAtCluster (o : Operator) : Request :=
  .get .hyperConverged o.configuration.clusterName o.configuration.space

/-- The ways in which the second half of a pass can go: from a world, how it ends, what it does, and
    the world it leaves. -/
inductive Survey (env : Environment ω) (o : Operator) (w : ω) :
    Ending (Option StatusRequest) → Trace → ω → Prop
  /-- the look fails -/
  | unread {f w₁} (looked : env.reply o.lookAtCluster w = (.error f, w₁))
      (other : f.isNotFound = false) :
      Survey env o w (.failed f) [.call o.lookAtCluster (.error f)] w₁
  /-- there is no cluster object -/
  | absent {reply w₁} (looked : env.reply o.lookAtCluster w = (reply, w₁))
      (nothing : reply = .ok .null ∨ ∃ f, reply = .error f ∧ f.isNotFound = true) :
      Survey env o w (.done none) [.call o.lookAtCluster reply] w₁
  /-- the comparison of the references fails, or else the message about them -/
  | uncompared {v f w₁} (looked : env.reply o.lookAtCluster w = (.ok v, w₁))
      (fails : Projection.update? o.resources v = .error f ∨
        ∃ v', Projection.update? o.resources v = .ok (some v') ∧
          Projection.notice v' o.resources.length = .error f) :
      Survey env o w (.failed f) [.call o.lookAtCluster (.ok v)] w₁
  /-- the references are as they should be -/
  | kept {v w₁} (looked : env.reply o.lookAtCluster w = (.ok v, w₁))
      (same : Projection.update? o.resources v = .ok none) :
      Survey env o w (.done (some ⟨v, false⟩)) [.call o.lookAtCluster (.ok v)] w₁
  /-- the status is not written back -/
  | refused {v v' w₁ f w₂} (looked : env.reply o.lookAtCluster w = (.ok v, w₁))
      (changed : Projection.update? o.resources v = .ok (some v'))
      (sent : env.reply (.updateStatus .hyperConverged v') w₁ = (.error f, w₂)) :
      Survey env o w (.failed f)
        [.call o.lookAtCluster (.ok v), .call (.updateStatus .hyperConverged v') (.error f)] w₂
  /-- the status is written back -/
  | rewritten {v v' w₁ u w₂} (looked : env.reply o.lookAtCluster w = (.ok v, w₁))
      (changed : Projection.update? o.resources v = .ok (some v'))
      (sent : env.reply (.updateStatus .hyperConverged v') w₁ = (.ok u, w₂)) :
      Survey env o w (.done (some ⟨v', true⟩))
        [.call o.lookAtCluster (.ok v), .call (.updateStatus .hyperConverged v') (.ok u),
          .count .statusUpdates] w₂

variable {env : Environment ω} {o : Operator} {w w' : ω}

theorem attempt_lookAtCluster {reply : Reply} (looked : env.reply o.lookAtCluster w = (reply, w')) :
    Action.attempt (env.get .hyperConverged o.configuration.clusterName o.configuration.space) w =
      ⟨.done reply, [.call o.lookAtCluster reply], w'⟩ :=
  Environment.attempt_send looked

theorem cluster?_found {v : Value} (looked : env.reply o.lookAtCluster w = (.ok v, w'))
    (present : v ≠ .null) :
    cluster? env o w = ⟨.done (some v), [.call o.lookAtCluster (.ok v)], w'⟩ := by
  rw [cluster?, Action.bind_done (attempt_lookAtCluster looked)]
  cases v with
  | null => exact absurd rfl present
  | _ => rfl

theorem cluster?_absent {reply : Reply} (looked : env.reply o.lookAtCluster w = (reply, w'))
    (nothing : reply = .ok .null ∨ ∃ f, reply = .error f ∧ f.isNotFound = true) :
    cluster? env o w = ⟨.done none, [.call o.lookAtCluster reply], w'⟩ := by
  rw [cluster?, Action.bind_done (attempt_lookAtCluster looked)]
  rcases nothing with rfl | ⟨f, rfl, missing⟩
  · rfl
  · simp only [missing, if_true]
    rfl

theorem cluster?_unread {f : Failure} (looked : env.reply o.lookAtCluster w = (.error f, w'))
    (other : f.isNotFound = false) :
    cluster? env o w = ⟨.failed f, [.call o.lookAtCluster (.error f)], w'⟩ := by
  rw [cluster?, Action.bind_done (attempt_lookAtCluster looked)]
  simp only [other, Bool.false_eq_true, if_false]
  rfl

theorem project_failed {v : Value} {f : Failure}
    (fails : Projection.update? o.resources v = .error f) :
    project env o v w = ⟨.failed f, [], w⟩ := by
  have projected : StatusRequest.projected o.resources ⟨v, false⟩ = .error f := by
    simp only [StatusRequest.projected, fails]
    rfl
  simp only [project, projected]
  rfl

theorem project_kept {v : Value} (same : Projection.update? o.resources v = .ok none) :
    project env o v w = ⟨.done ⟨v, false⟩, [], w⟩ := by
  have projected : StatusRequest.projected o.resources ⟨v, false⟩ = .ok ⟨v, false⟩ := by
    simp only [StatusRequest.projected, same]
    rfl
  simp only [project, projected]
  rfl

/-- Changed references are announced and written back. -/
theorem project_changed {v v' : Value}
    (changed : Projection.update? o.resources v = .ok (some v')) :
    project env o v w = (do
      Projection.announce o.resources v'
      let _ ← env.send (.updateStatus .hyperConverged v')
      Action.count .statusUpdates
      return ⟨v', true⟩ : Action ω StatusRequest) w := by
  have projected : StatusRequest.projected o.resources ⟨v, false⟩ = .ok ⟨v', true⟩ := by
    simp only [StatusRequest.projected, changed]
    rfl
  have made : (Action.ofExcept (StatusRequest.projected o.resources ⟨v, false⟩) :
      Action ω StatusRequest) w = ⟨.done ⟨v', true⟩, [], w⟩ := by
    rw [projected]
    rfl
  rw [project, Action.bind_done made]
  rfl

theorem announce_done {v : Value} {message : String}
    (worded : Projection.notice v o.resources.length = .ok message) (w : ω) :
    (Projection.announce o.resources v : Action ω Unit) w =
      ⟨.done (), [.log ⟨Level.info, Pass.logger, message, none⟩], w⟩ := by
  have made : (Action.ofExcept (Projection.notice v o.resources.length) : Action ω String) w =
      ⟨.done message, [], w⟩ := by
    rw [worded]
    rfl
  rw [Projection.announce, Action.bind_done made]
  rfl

theorem project_unannounced {v v' : Value} {f : Failure}
    (changed : Projection.update? o.resources v = .ok (some v'))
    (fails : Projection.notice v' o.resources.length = .error f) :
    project env o v w = ⟨.failed f, [], w⟩ := by
  have made : (Projection.announce o.resources v' : Action ω Unit) w = ⟨.failed f, [], w⟩ := by
    simp only [Projection.announce, fails]
    rfl
  rw [project_changed changed, Action.bind_failed made]

theorem project_refused {v v' : Value} {message : String} {f : Failure}
    (changed : Projection.update? o.resources v = .ok (some v'))
    (worded : Projection.notice v' o.resources.length = .ok message)
    (sent : env.reply (.updateStatus .hyperConverged v') w = (.error f, w')) :
    project env o v w = ⟨.failed f, [.log ⟨Level.info, Pass.logger, message, none⟩,
      .call (.updateStatus .hyperConverged v') (.error f)], w'⟩ := by
  rw [project_changed changed, Action.bind_done (announce_done worded w),
    Action.bind_failed (Environment.send_failed sent)]
  rfl

theorem project_rewritten {v v' u : Value} {message : String}
    (changed : Projection.update? o.resources v = .ok (some v'))
    (worded : Projection.notice v' o.resources.length = .ok message)
    (sent : env.reply (.updateStatus .hyperConverged v') w = (.ok u, w')) :
    project env o v w = ⟨.done ⟨v', true⟩, [.log ⟨Level.info, Pass.logger, message, none⟩,
      .call (.updateStatus .hyperConverged v') (.ok u), .count .statusUpdates], w'⟩ := by
  rw [project_changed changed, Action.bind_done (announce_done worded w),
    Action.bind_done (Environment.send_done sent)]
  rfl

/-- The second half of a pass. -/
def finish (env : Environment ω) (o : Operator) : Action ω (Option StatusRequest) := do
  match ← cluster? env o with
  | none =>
    let c := o.configuration
    Action.log Level.info logger
      s!"HyperConverged {c.space}/{c.clusterName} not found; skipping related objects status"
    return none
  | some v => return some (← project env o v)

theorem pass_eq (env : Environment ω) (o : Operator) :
    pass env o = Pass.run env o.recorder o.resources >>= fun _ => finish env o := rfl

theorem finish_survey (env : Environment ω) (o : Operator) (w : ω) :
    Survey env o w (finish env o w).ending (finish env o w).trace.effects (finish env o w).world := by
  rcases looked : env.reply o.lookAtCluster w with ⟨reply, w₁⟩
  by_cases nothing : reply = .ok .null ∨ ∃ f, reply = .error f ∧ f.isNotFound = true
  · rw [finish, Action.bind_done (cluster?_absent looked nothing)]
    exact .absent looked nothing
  cases reply with
  | error f =>
    have other : f.isNotFound = false := by simpa using nothing
    rw [finish, Action.bind_failed (cluster?_unread looked other)]
    exact .unread looked other
  | ok v =>
    have present : v ≠ .null := by simpa using nothing
    rw [finish, Action.bind_done (cluster?_found looked present)]
    dsimp only
    cases compared : Projection.update? o.resources v with
    | error f =>
      rw [Action.bind_failed (project_failed compared)]
      exact .uncompared looked (.inl compared)
    | ok update =>
      cases update with
      | none =>
        rw [Action.bind_done (project_kept compared)]
        exact .kept looked compared
      | some v' =>
        cases worded : Projection.notice v' o.resources.length with
        | error f =>
          rw [Action.bind_failed (project_unannounced compared worded)]
          exact .uncompared looked (.inr ⟨v', compared, worded⟩)
        | ok message =>
          rcases sent : env.reply (.updateStatus .hyperConverged v') w₁ with ⟨answer, w₂⟩
          cases answer with
          | error f =>
            rw [Action.bind_failed (project_refused compared worded sent)]
            exact .refused looked compared sent
          | ok u =>
            rw [Action.bind_done (project_rewritten compared worded sent)]
            exact .rewritten looked compared sent

/-- A pass is a walk that fails, or a walk that ends well and a survey. -/
theorem pass_halves (env : Environment ω) (o : Operator) (w : ω) :
    (∃ f, (pass env o w).ending = .failed f ∧ Pass.Walk env o.recorder o.resources w (.failed f)
      (pass env o w).trace.effects (pass env o w).world) ∨
    ∃ t w₁ u, Pass.Walk env o.recorder o.resources w (.done ()) t w₁ ∧
      Survey env o w₁ (pass env o w).ending u (pass env o w).world ∧
      (pass env o w).trace.effects = t ++ u := by
  have walk := Pass.run_walk env o.recorder o.resources w
  rcases ran : Pass.run env o.recorder o.resources w with ⟨ending, t, w₁⟩
  rw [ran] at walk
  rw [pass_eq]
  cases ending with
  | failed f =>
    rw [Action.bind_failed ran]
    exact .inl ⟨f, rfl, walk⟩
  | done u =>
    rw [Action.bind_done ran]
    exact .inr ⟨t.effects, w₁, _, walk, finish_survey env o w₁, Trace.effects_append _ _⟩
  | unfinished =>
    have within : Action.Within (.pass fun _ => True) (Pass.run env o.recorder o.resources) :=
      Pass.within_run (fun _ _ => trivial) (fun _ _ _ _ => trivial) _ _
    have meets := (within w).2
    rw [ran] at meets
    exact meets.elim

/-- A pass always ends. -/
theorem pass_ends (env : Environment ω) (o : Operator) (w : ω) :
    (pass env o w).ending ≠ .unfinished := by
  have within : Action.Within (.pass fun _ => True) (pass env o) :=
    within_pass (fun _ _ => trivial) (fun _ _ _ _ => trivial) o
  intro cut
  have meets := (within w).2
  rw [cut] at meets
  exact meets

/-- What a pass leaves in a trace. -/
theorem pass_entries (env : Environment ω) (o : Operator) (w : ω) :
    ∀ e ∈ (pass env o w).trace, e.OfPass := by
  have within : Action.Within (.pass fun _ => True) (pass env o) :=
    within_pass (fun _ _ => trivial) (fun _ _ _ _ => trivial) o
  exact (within w).1

theorem pass_waits (env : Environment ω) (o : Operator) (w : ω) : (pass env o w).trace.waits = [] := by
  refine List.filterMap_eq_nil_iff.mpr fun e member => ?_
  have entry := pass_entries env o w e member
  cases e with
  | wait => exact entry.elim
  | _ => rfl

/-- An operator with a common configuration that leaves the gate alone. -/
def usual : Operator where
  configuration := {
    space := "kubevirt-hyperconverged"
    deployment := "hco-operator"
    operatorName := "hyperconverged-cluster-operator"
    operatorVersion := "unknown"
    managedBy := "hco-operator"
    clusterName := "kubevirt-hyperconverged"
    monitoringSpace := "openshift-monitoring"
    metricsPort := 8383
    resyncSeconds := 60
    healthPort := 8080
    gateTimeoutSeconds := 300
    gatePollMilliseconds := 1000
    tenantQuota := none }
  recorder := { owner := {
    name := "hco-operator", space := "kubevirt-hyperconverged", uid := "1" } }
  gate := none

end Operator

end MonitoringUpkeep
