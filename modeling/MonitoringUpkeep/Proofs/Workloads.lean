import Mathlib.Algebra.BigOperators.Group.List.Basic
import Mathlib.Algebra.Ring.Int.Defs
import MonitoringUpkeep.Proofs.GateLooks
import MonitoringUpkeep.Proofs.ReferenceBags
import MonitoringUpkeep.Proofs.Serving

/-!
# Workloads of the quota in a store

Over a store a look at the workloads of the quota always comes to an answer, and the answer is a matter of
counting: the deployments that carry the label of the workloads, in the namespace of the gate, are as many
as expected and each has all of its replicas ready, and there are as many pods with that label as the
deployments have replicas. Neither the order of the store nor anything else in it counts, and the look
leaves the store as it is.
-/

namespace MonitoringUpkeep

namespace Value
open Fields

/-- An object whose labels can be read: its metadata are an object, and its labels are one or do not count
    as given. -/
structure Labelled (v : Value) : Prop where
  object : ∃ fs ms, v = .obj fs ∧ get? fs "metadata" = some (.obj ms)
  labels : Projection.Loose (v.lookup ["metadata", "labels"])

/-- The object carries the label of the workloads. -/
def IsWorkload (v : Value) : Prop :=
  v.lookup ["metadata", "labels", "app.kubernetes.io/component"] ≈ .str "multi-tenant"

instance (v : Value) : Decidable v.IsWorkload :=
  inferInstanceAs (Decidable (v.lookup ["metadata", "labels", "app.kubernetes.io/component"] ≈ _))

/-- A status from which the numbers of replicas can be read: an object in which they are integers, null
    or absent, or what does not count as given. -/
structure Counted (v : Value) : Prop where
  status : Projection.Loose (v.lookup ["status"])
  counts : ∀ name ∈ ["replicas", "readyReplicas"],
    v.lookup ["status", name] = .null ∨ ∃ n, v.lookup ["status", name] = .int n

/-- A number in the status of an object; what is null or absent counts as zero. -/
def statusCount (v : Value) (name : String) : Int :=
  match v.lookup ["status", name] with
  | .int n => n
  | _ => 0

variable {v : Value}

/-- The labels that a store reads are those that stand in the object. -/
theorem Labelled.read (labelled : v.Labelled) : ∃ fs, Store.labels v = .ok (.obj fs) ∧
    ∀ key, getD fs key = v.lookup ["metadata", "labels", key] := by
  obtain ⟨fs, ms, rfl, metadata⟩ := labelled.object
  obtain ⟨ls, labels, same⟩ := labelled.labels.orElse
  have whole : (Value.obj ms).orElse (.obj []) = .obj ms := by cases ms <;> rfl
  have place : getD fs "metadata" = .obj ms := by simp [getD, metadata]
  have read : (Value.obj fs).lookup ["metadata", "labels"] = getD ms "labels" := by
    simp [lookup, place]
  rw [read] at labels same
  refine ⟨ls, ?_, fun key => ?_⟩
  · simp only [Store.labels, Value.metadata, member, place, whole, labels, bind, Except.bind, pure,
      Except.pure]
  · rw [same key]
    simp only [lookup, place]

/-- The numbers that are read from a status are those that stand in it. -/
theorem Counted.read {fs : Fields} (counted : (Value.obj fs).Counted) : ∃ ss,
    (getD fs "status").orElse (.obj []) = .obj ss ∧
      ∀ name ∈ ["replicas", "readyReplicas"],
        (getD ss name).orElse (.int 0) = .int ((Value.obj fs).statusCount name) := by
  obtain ⟨ss, status, same⟩ := counted.status.orElse
  refine ⟨ss, status, fun name known => ?_⟩
  have place : getD ss name = (Value.obj fs).lookup ["status", name] := same name
  rcases counted.counts name known with absent | ⟨n, given⟩
  · rw [place, statusCount, absent]
    rfl
  · rw [place, statusCount, given]
    by_cases zero : n = 0 <;> simp [orElse, isBlank, zero]

end Value

namespace Selector

/-- The selector of the workloads asks for their label and nothing else. -/
theorem accepts_workload (fs : Fields) : accepts (.str Gate.workloadSelector) (.obj fs) =
    .ok (decide (Fields.getD fs "app.kubernetes.io/component" ≈ .str "multi-tenant")) := by
  have asked : clauses Gate.workloadSelector =
      [.hasValue "app.kubernetes.io/component" "multi-tenant"] := rfl
  simp only [accepts, asked, allHold, Clause.holds, Value.member, bind, Except.bind, pure, Except.pure]
  by_cases holds : Fields.getD fs "app.kubernetes.io/component" ≈ .str "multi-tenant" <;> simp [holds]

end Selector

namespace Store

/-- The objects of a kind in a namespace that carry the label of the workloads, in the order of the
    store. -/
def workloads (s : Store) (kind : Kind) (space : Value) : List Value :=
  (s.entries.filter fun e => decide (e.1.kind = kind ∧ e.1.space ≈ space ∧ e.2.IsWorkload)).map Prod.snd

/-- A list of workloads has all of them and nothing else. -/
theorem list_workloads {s : Store} (labelled : ∀ e ∈ s.entries, e.2.Labelled) (kind : Kind)
    {space : Value} (given : space ≠ .null) :
    s.list kind space (.str Gate.workloadSelector) = .ok (s.workloads kind space) := by
  obtain ⟨entries, version⟩ := s
  change select kind space (.str Gate.workloadSelector) entries =
    .ok (Store.workloads ⟨entries, version⟩ kind space)
  induction entries with
  | nil => rfl
  | cons e rest ih =>
    obtain ⟨key, v⟩ := e
    have parts := List.forall_mem_cons.mp labelled
    obtain ⟨fs, read, same⟩ := parts.1.read
    have accepted : Selector.accepts (.str Gate.workloadSelector) (.obj fs) =
        .ok (decide v.IsWorkload) := by
      rw [Selector.accepts_workload, same]
      rfl
    simp only [select, read, accepted, ih parts.2, bind, Except.bind, pure, Except.pure]
    by_cases kinds : key.kind = kind <;> by_cases spaces : key.space ≈ space <;>
      by_cases workload : v.IsWorkload <;> simp [workloads, kinds, spaces, workload]

theorem mem_workloads {s : Store} {kind : Kind} {space v : Value} (member : v ∈ s.workloads kind space) :
    ∃ e ∈ s.entries, e.2 = v := by
  obtain ⟨e, kept, rfl⟩ := List.mem_map.mp member
  exact ⟨e, (List.mem_filter.mp kept).1, rfl⟩

end Store

/-- Where a store serves an environment, a list has what the store lists, and changes nothing. -/
theorem Environment.Serves.listed {ω : Type} {env : Environment ω} {store : ω → Store}
    (serves : env.Serves store) {kind : Kind} {space selector : Value} {items : List Value} {w : ω}
    (listed : (store w).list kind space selector = .ok items) : ∃ t w',
      env.list kind space selector w = ⟨.done items, t, w'⟩ ∧ store w' = store w := by
  have answered := serves.reply (.list kind space selector) w
  rcases sent : env.reply (.list kind space selector) w with ⟨reply, w'⟩
  rw [sent] at answered
  simp only [Store.reply, listed, Except.map, Prod.mk.injEq] at answered
  obtain ⟨rfl, same⟩ := answered
  rcases Environment.list_call sent with ⟨_, is, done⟩ | ⟨none, -⟩
  · cases is
    exact ⟨_, w', done, same.symm⟩
  · exact absurd rfl (none items)

namespace Workloads
open Value Fields

/-- The deployments have all of their replicas ready. -/
def AllReady (ds : List Value) : Prop :=
  ∀ d ∈ ds, d.statusCount "readyReplicas" = d.statusCount "replicas"

instance (ds : List Value) : Decidable (AllReady ds) := inferInstanceAs (Decidable (∀ d ∈ ds, _))

/-- The number of replicas that deployments have together. -/
def replicas (ds : List Value) : Int := (ds.map fun d => d.statusCount "replicas").sum

/-- Deployments ask for as many pods as they have replicas, if all of these are ready. -/
theorem expectedPods_counted {ds : List Value} (objects : ∀ d ∈ ds, ∃ fs, d = .obj fs)
    (counted : ∀ d ∈ ds, d.Counted) (total : Int) : expectedPods ds (.int total) =
      .ok (if AllReady ds then some (.int (total + replicas ds)) else none) := by
  induction ds generalizing total with
  | nil => simp [expectedPods, AllReady, replicas]
  | cons d rest ih =>
    obtain ⟨⟨fs, rfl⟩, otherObjects⟩ := List.forall_mem_cons.mp objects
    obtain ⟨first, others⟩ := List.forall_mem_cons.mp counted
    obtain ⟨ss, status, counts⟩ := first.read
    have wanted := counts "replicas" (by simp)
    have ready := counts "readyReplicas" (by simp)
    have sum (n : Int) : (Value.int total).plus (.int n) = .ok (.int (total + n)) := rfl
    simp only [expectedPods, member, status, wanted, ready, int_agrees_iff, sum, bind, Except.bind]
    by_cases all : (Value.obj fs).statusCount "readyReplicas" = (Value.obj fs).statusCount "replicas"
    · rw [if_pos all, ih otherObjects others]
      simp [AllReady, replicas, all, add_assoc]
    · simp [all, AllReady, pure, Except.pure]

end Workloads

namespace Gate
open Value MonitoringUpkeep.Action

/-- The workloads are complete in a store: as many deployments as expected, each with all of its replicas
    ready, and as many pods as these have replicas. -/
structure Complete (g : Gate) (s : Store) : Prop where
  deployments : Value.int (s.workloads .deployment g.space).length ≈ g.expectedDeployments
  ready : Workloads.AllReady (s.workloads .deployment g.space)
  pods : ((s.workloads .pod g.space).length : Int) =
    Workloads.replicas (s.workloads .deployment g.space)

variable {ω : Type} {env : Environment ω} {store : ω → Store} {g : Gate} {w : ω}

/-- A look at the workloads comes to an answer, which is whether they are complete, and changes
    nothing. -/
theorem workloadsReady_counts (serves : env.Serves store) (named : g.space ≠ .null)
    (labelled : ∀ e ∈ (store w).entries, e.2.Labelled)
    (counted : ∀ d ∈ (store w).workloads .deployment g.space, d.Counted) : ∃ ready,
    (workloadsReady env g w).ending = .done ready ∧ (ready = true ↔ g.Complete (store w)) ∧
      store (workloadsReady env g w).world = store w := by
  obtain ⟨t, w₁, deployments, same⟩ :=
    serves.listed (Store.list_workloads labelled .deployment named)
  have objects : ∀ d ∈ (store w).workloads .deployment g.space, ∃ fs, d = .obj fs := by
    intro d member
    obtain ⟨e, stored, rfl⟩ := Store.mem_workloads member
    obtain ⟨fs, _, object, -⟩ := (labelled e stored).object
    exact ⟨fs, object⟩
  have expected := Workloads.expectedPods_counted objects counted 0
  rw [workloadsReady, bind_done deployments]
  by_cases many : Value.int ((store w).workloads .deployment g.space).length ≈ g.expectedDeployments
  · by_cases ready : Workloads.AllReady ((store w).workloads .deployment g.space)
    · have relabelled : ∀ e ∈ (store w₁).entries, e.2.Labelled := by rwa [same]
      obtain ⟨t', w₂, pods, same'⟩ := serves.listed (Store.list_workloads relabelled .pod named)
      have known : (ofExcept (Workloads.expectedPods ((store w).workloads .deployment g.space)
          (.int 0)) : Action ω (Option Value)) w₁ = ⟨.done (some (.int (Workloads.replicas
            ((store w).workloads .deployment g.space)))), [], w₁⟩ := by
        rw [expected, if_pos ready, zero_add]
        rfl
      rw [if_neg (not_not_intro many), bind_done known]
      dsimp only
      rw [bind_done pods, same]
      refine ⟨_, rfl, ?_, same'.trans same⟩
      rw [decide_eq_true_iff, int_agrees_iff]
      exact ⟨fun enough => ⟨many, ready, enough⟩, fun complete => complete.pods⟩
    · have known : (ofExcept (Workloads.expectedPods ((store w).workloads .deployment g.space)
          (.int 0)) : Action ω (Option Value)) w₁ = ⟨.done none, [], w₁⟩ := by
        rw [expected, if_neg ready]
        rfl
      rw [if_neg (not_not_intro many), bind_done known]
      exact ⟨false, rfl, iff_of_false Bool.false_ne_true fun complete => ready complete.ready, same⟩
  · rw [if_pos many]
    exact ⟨false, rfl, iff_of_false Bool.false_ne_true fun complete => many complete.deployments, same⟩

/-- What bears on a look at the workloads: the deployments and pods in the namespace of the gate that carry
    the label of the workloads. -/
def concerns (g : Gate) (e : StoreKey × Value) : Bool :=
  decide ((e.1.kind = .deployment ∨ e.1.kind = .pod) ∧ e.1.space ≈ g.space ∧ e.2.IsWorkload)

/-- The workloads of a kind are found among what bears on the look. -/
theorem workloads_concerned (s : Store) {kind : Kind} (either : kind = .deployment ∨ kind = .pod) :
    s.workloads kind g.space =
      ((s.entries.filter g.concerns).filter fun e => decide (e.1.kind = kind)).map Prod.snd := by
  rw [Store.workloads, List.filter_filter]
  congr 2
  funext e
  by_cases here : e.1.kind = kind
  · simp [concerns, here, either]
  · simp [here]

/-- Stores that have the same bearing on the look, in any order, have the same workloads. -/
theorem workloads_perm {s s' : Store} {kind : Kind} (either : kind = .deployment ∨ kind = .pod)
    (rearranged : (s'.entries.filter g.concerns).Perm (s.entries.filter g.concerns)) :
    (s'.workloads kind g.space).Perm (s.workloads kind g.space) := by
  rw [workloads_concerned s' either, workloads_concerned s either]
  exact (rearranged.filter _).map _

theorem Complete.of_perm {s s' : Store} (complete : g.Complete s)
    (rearranged : (s'.entries.filter g.concerns).Perm (s.entries.filter g.concerns)) :
    g.Complete s' := by
  have deployments := workloads_perm (.inl rfl) rearranged
  have pods := workloads_perm (.inr rfl) rearranged
  refine ⟨?_, fun d member => complete.ready d (deployments.mem_iff.mp member), ?_⟩
  · rw [deployments.length_eq]
    exact complete.deployments
  · rw [pods.length_eq, complete.pods]
    exact ((deployments.map _).sum_eq).symm

/-- What a look at the workloads over a store comes to. -/
structure Assesses (g : Gate) (env : Environment ω) (store : ω → Store) (w : ω) (ready : Bool) :
    Prop where
  ending : (workloadsReady env g w).ending = .done ready
  complete : ready = true ↔ g.Complete (store w)
  unchanged : store (workloadsReady env g w).world = store w
  /-- a store with the same deployments and pods of the label in the namespace gives the same answer, in
      whatever order they stand and whatever else stands there -/
  alone : ∀ {ω' : Type} (env' : Environment ω') (store' : ω' → Store) (w' : ω'), env'.Serves store' →
    (∀ e ∈ (store' w').entries, e.2.Labelled) →
    ((store' w').entries.filter g.concerns).Perm ((store w).entries.filter g.concerns) →
    (workloadsReady env' g w').ending = .done ready

/-- Over a store a look at the workloads comes to the answer whether they are complete, which is a matter
    of counting. -/
theorem workloadsReady_assesses (serves : env.Serves store) (named : g.space ≠ .null)
    (labelled : ∀ e ∈ (store w).entries, e.2.Labelled)
    (counted : ∀ d ∈ (store w).workloads .deployment g.space, d.Counted) :
    ∃ ready, Assesses g env store w ready := by
  obtain ⟨ready, ending, complete, unchanged⟩ := workloadsReady_counts serves named labelled counted
  refine ⟨ready, ending, complete, unchanged, ?_⟩
  intro ω' env' store' w' serves' labelled' rearranged
  have recounted : ∀ d ∈ (store' w').workloads .deployment g.space, d.Counted := fun d member =>
    counted d ((workloads_perm (.inl rfl) rearranged).mem_iff.mp member)
  obtain ⟨ready', ending', complete', -⟩ := workloadsReady_counts serves' named labelled' recounted
  have same : ready' = true ↔ ready = true := by
    rw [complete', complete]
    exact ⟨fun known => known.of_perm rearranged.symm, fun known => known.of_perm rearranged⟩
  rw [ending', Bool.eq_iff_iff.mpr same]

/-- An object with the label of the workloads and some status. -/
def workload (status : Value) : Value := .obj [
  ("metadata", .obj [("labels", .obj [("app.kubernetes.io/component", "multi-tenant")])]),
  ("status", status)]

theorem workload_labelled (status : Value) : (workload status).Labelled :=
  ⟨⟨_, _, rfl, rfl⟩, .inr ⟨_, rfl⟩⟩

/-- A store with two deployments, one of which has nothing to do, a pod of the other one, a pod of another
    namespace, and a deployment without labels. -/
def staffed : Store where
  entries := [
    (⟨.pod, "kubevirt", "lock-0"⟩, workload .null),
    (⟨.deployment, "kubevirt", "lock"⟩,
      workload (.obj [("readyReplicas", .int 1), ("replicas", .int 1)])),
    (⟨.pod, "default", "lock-0"⟩, workload .null),
    (⟨.deployment, "kubevirt", "idle"⟩, workload (.obj [("replicas", .null)])),
    (⟨.deployment, "kubevirt", "other"⟩, .obj [("metadata", .obj [("labels", .null)])])]

theorem workloadsReady_assesses_staffed :
    let g : Gate := {
      clusterName := "kubevirt-hyperconverged", space := "kubevirt", expectedDeployments := .int 2 }
    let env := Store.environment fun _ => none
    env.Serves Prod.snd ∧ g.space ≠ .null ∧ (∀ e ∈ staffed.entries, e.2.Labelled) ∧
      (∀ d ∈ staffed.workloads .deployment g.space, d.Counted) ∧ g.Complete staffed ∧
      ∃ ready, Assesses g env Prod.snd (0, staffed) ready := by
  intro g env
  have serves : env.Serves Prod.snd := Store.environment_serves
  have labelled : ∀ e ∈ staffed.entries, e.2.Labelled := by
    simp only [staffed, List.forall_mem_cons]
    exact ⟨workload_labelled _, workload_labelled _, workload_labelled _, workload_labelled _,
      ⟨⟨_, _, rfl, rfl⟩, .inl rfl⟩, List.forall_mem_nil _⟩
  have deployments : staffed.workloads .deployment g.space =
      [workload (.obj [("readyReplicas", .int 1), ("replicas", .int 1)]),
        workload (.obj [("replicas", .null)])] := rfl
  have counted : ∀ d ∈ staffed.workloads .deployment g.space, d.Counted := by
    rw [deployments]
    simp only [List.forall_mem_cons]
    refine ⟨⟨.inr ⟨_, rfl⟩, ?_⟩, ⟨.inr ⟨_, rfl⟩, ?_⟩, List.forall_mem_nil _⟩
    · simp [workload, lookup, Fields.getD, Fields.get?]
    · simp [workload, lookup, Fields.getD, Fields.get?]
  have complete : g.Complete staffed := ⟨by rw [deployments]; decide, by rw [deployments]; decide, rfl⟩
  have named : g.space ≠ .null := by
    intro absent
    cases absent
  exact ⟨serves, named, labelled, counted, complete,
    workloadsReady_assesses serves named labelled counted⟩

end Gate

end MonitoringUpkeep
