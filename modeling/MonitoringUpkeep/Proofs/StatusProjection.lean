import MonitoringUpkeep.Proofs.Repair
import MonitoringUpkeep.Proofs.Survey

/-!
# References written over a store

Over a store that nobody else writes to, a pass that ends well leaves the cluster object with
references to the managed objects and to nothing else, and all of these are there. The status is
written at most once, and only where the references were others. The next pass then has nothing to
do: it looks at six objects and comes to rest.
-/

namespace MonitoringUpkeep

/-- Whether a request writes a status. -/
def Request.isStatusUpdate : Request → Bool
  | .updateStatus .. => true
  | _ => false

namespace Store
open Value Fields

/-- A reference resolves where there is an object of the kind and API version that it gives, under
    the name and namespace that it gives. -/
def Resolves (s : Store) (reference : Value) : Prop := ∃ kind : Kind,
  reference.lookup ["apiVersion"] = .str kind.apiVersion ∧
    reference.lookup ["kind"] = .str kind.name ∧
    ∃ v, s.get kind (reference.lookup ["name"]) (reference.lookup ["namespace"]) = .ok v

/-- A status in which one field is written anew is written back to the object that it was read
    from. -/
theorem updateStatus_obj {s : Store} (keyed : s.Keyed) {key : StoreKey} {fs : Fields}
    (found : s.find? key = some (.obj fs)) (field : String) (v : Value) : ∃ own,
      StoreKey.ofObject key.kind (.obj (writeAt fs ["status", field] v)) = .ok own ∧
      own.same key = true ∧
      s.updateStatus key.kind (.obj (writeAt fs ["status", field] v)) =
        (.ok (.obj (writeAt fs ["status", field] v)),
          s.write own (.obj (writeAt fs ["status", field] v))) := by
  obtain ⟨own, given, same⟩ := keyed.ofObject_find? found
  have given' : StoreKey.ofObject key.kind (.obj (writeAt fs ["status", field] v)) = .ok own :=
    StoreKey.ofObject_writeAt given (by simp [Apart]) (by simp [Apart]) v
  have found' : s.find? own = some (.obj fs) := (s.find?_congr same).trans found
  have status : (Value.obj (writeAt fs ["status", field] v)).member "status" >>=
      (Value.obj fs).withPart "status" = .ok (.obj (writeAt fs ["status", field] v)) := by
    simp [member, withPart, bind, Except.bind]
  exact ⟨own, given', same, by simp only [updateStatus, given', found', status]⟩

end Store

namespace Operator

/-- What a store holds as the cluster object. -/
def cluster (o : Operator) (s : Store) : Reply :=
  s.get .hyperConverged o.configuration.clusterName o.configuration.space

/-- The key of the cluster object. -/
def clusterKey (o : Operator) : StoreKey where
  kind := .hyperConverged
  space := (Value.str o.configuration.space).orElse .null
  name := o.configuration.clusterName

theorem of_clusterKey (o : Operator) : StoreKey.of .hyperConverged o.configuration.clusterName
    o.configuration.space = .ok o.clusterKey := by
  have space : StoreKey.checkPart ((Value.str o.configuration.space).orElse .null) = .ok () := by
    unfold Value.orElse
    split <;> rfl
  simp only [StoreKey.of, space, clusterKey]
  rfl

theorem cluster_eq (o : Operator) (s : Store) : o.cluster s =
    match s.find? o.clusterKey with
    | some v => .ok v
    | none => .error .notFound := s.get_of_key o.of_clusterKey

theorem cluster_ok_iff {o : Operator} {s : Store} {v : Value} :
    o.cluster s = .ok v ↔ s.find? o.clusterKey = some v := by
  rw [cluster_eq]
  cases s.find? o.clusterKey <;> simp

theorem kind_ne_hyperConverged (k : ManagedKind) : k.kind ≠ .hyperConverged := by
  cases k <;> nofun

/-- No managed object is kept under the key of the cluster object. -/
theorem not_at_clusterKey (o : Operator) (r : Resource) : ¬ r.At o.clusterKey :=
  fun here => kind_ne_hyperConverged r.kind here.kind.symm

/-- What a store holds as the cluster object when a pass ended with a result. -/
def standing : Option StatusRequest → Reply
  | some request => .ok request.object
  | none => .error .notFound

variable {ω : Type} {env : Environment ω} {store : ω → Store} {o : Operator} {w w' : ω}

/-- The look at the cluster object is answered by the store and changes nothing. -/
theorem clusterLooked (serves : env.Serves store) {reply : Reply}
    (looked : env.reply o.lookAtCluster w = (reply, w')) :
    store w' = store w ∧ reply = o.cluster (store w) := by
  have answered := serves.reply o.lookAtCluster w
  rw [looked] at answered
  have parts := Prod.mk.inj answered
  exact ⟨parts.2.symm, parts.1.symm⟩

/-- What a survey that ends well leaves. -/
structure Leaves (o : Operator) (s s' : Store) (result : Option StatusRequest)
    (requests : List Request) : Prop where
  keyed : s'.Keyed
  /-- nothing but the cluster object is written -/
  others : ∀ key, key.kind ≠ .hyperConverged → s'.find? key = s.find? key
  absent : result = none ↔ ∀ v, o.cluster s ≠ .ok v
  stands : o.cluster s' = standing result
  /-- what stands there needs no further writing -/
  clean : ∀ request ∈ result, Projection.update? o.resources request.object = .ok none
  dirty : ∀ request ∈ result, ∀ v, o.cluster s = .ok v →
    (request.dirty = true ↔ ¬ Projection.Refers o.resources v)
  requests : requests = o.lookAtCluster :: (result.filter StatusRequest.dirty).toList.map fun
    request => .updateStatus .hyperConverged request.object

theorem resources_ne_nil (o : Operator) : o.resources ≠ [] := nofun

/-- Changed references are written back to the cluster object that they were read from. -/
theorem cluster_rewritten {s : Store} (keyed : s.Keyed) {v v' : Value}
    (stands : o.cluster s = .ok v) (changed : Projection.update? o.resources v = .ok (some v')) :
    ∃ own, StoreKey.ofObject .hyperConverged v' = .ok own ∧ own.same o.clusterKey = true ∧
      s.updateStatus .hyperConverged v' = (.ok v', s.write own v') := by
  obtain ⟨-, fs, rfl, new⟩ := Projection.of_update?_some changed
  change .obj (Fields.writeAt fs ["status", "relatedObjects"] _) = v' at new
  obtain ⟨own, given, same, written⟩ := Store.updateStatus_obj keyed (cluster_ok_iff.mp stands)
    "relatedObjects" (.arr (o.resources.map Resource.reference))
  rw [new] at given written
  exact ⟨own, given, same, written⟩

section
variable {s s' : Store} {v v' : Value}

theorem leaves_absent (keyed : s.Keyed) (gone : o.cluster s = .error .notFound) :
    Leaves o s s none [o.lookAtCluster] where
  keyed := keyed
  others _ _ := rfl
  absent := by simp [gone]
  stands := gone
  clean := nofun
  dirty := nofun
  requests := rfl

theorem leaves_kept (keyed : s.Keyed) (stands : o.cluster s = .ok v)
    (same : Projection.update? o.resources v = .ok none) :
    Leaves o s s (some ⟨v, false⟩) [o.lookAtCluster] := by
  have refers := Projection.refers_of_update? o.resources_ne_nil same
  refine {
    keyed := keyed
    others := fun _ _ => rfl
    absent := by simp [stands]
    stands := stands
    clean := ?_
    dirty := ?_
    requests := rfl }
  · rintro _ ⟨⟩
    exact same
  · rintro _ ⟨⟩ u known
    cases stands.symm.trans known
    simp [refers]

theorem leaves_rewritten (keyed : s.Keyed) (stands : o.cluster s = .ok v)
    (changed : Projection.update? o.resources v = .ok (some v'))
    (answered : s.updateStatus .hyperConverged v' = (.ok v', s')) :
    Leaves o s s' (some ⟨v', true⟩) [o.lookAtCluster, .updateStatus .hyperConverged v'] := by
  obtain ⟨differ, -⟩ := Projection.of_update?_some changed
  obtain ⟨own, given, same, written⟩ := cluster_rewritten keyed stands changed
  obtain rfl : s.write own v' = s' := congrArg Prod.snd (written.symm.trans answered)
  have sameKind : own.kind = .hyperConverged := StoreKey.kind_ofObject given
  refine {
    keyed := keyed.write given
    others := ?_
    absent := by simp [stands]
    stands := ?_
    clean := ?_
    dirty := ?_
    requests := rfl }
  · intro key other
    have apart : own.same key = false := by
      rw [Bool.eq_false_iff]
      exact fun here => other ((StoreKey.same_iff.mp here).1.symm.trans sameKind)
    rw [Store.find?_write, apart]
    rfl
  · have there : (s.write own v').find? o.clusterKey = some v' := by
      rw [Store.find?_write, same]
      rfl
    exact cluster_ok_iff.mpr there
  · rintro _ ⟨⟩
    exact Projection.update?_idempotent changed
  · rintro _ ⟨⟩ u known
    cases stands.symm.trans known
    simp [differ]

end

/-- A survey that ends well over a store. -/
theorem Survey.leaves (serves : env.Serves store) (keyed : (store w).Keyed)
    {result : Option StatusRequest} {t : Trace} (survey : Survey env o w (.done result) t w') :
    Leaves o (store w) (store w') result t.requests := by
  cases survey with
  | @absent reply _ looked nothing =>
    obtain ⟨same, rfl⟩ := clusterLooked serves looked
    rw [same]
    rcases nothing with null | ⟨f, failed, missing⟩
    · exact (keyed.get_ne_null _ _ _ null).elim
    · refine leaves_absent keyed ?_
      cases found : (store w).find? o.clusterKey with
      | none => simp only [cluster_eq, found]
      | some v => simp [cluster_eq, found] at failed
  | kept looked same =>
    obtain ⟨unchanged, stands⟩ := clusterLooked serves looked
    rw [unchanged]
    exact leaves_kept keyed stands.symm same
  | @rewritten v v' w₁ u _ looked changed sent =>
    obtain ⟨unchanged, stands⟩ := clusterLooked serves looked
    obtain ⟨own, -, -, written⟩ := cluster_rewritten keyed stands.symm changed
    have answered := serves.reply (.updateStatus .hyperConverged v') w₁
    rw [sent, unchanged] at answered
    have after : store w' = (store w).write own v' :=
      (congrArg Prod.snd (written.symm.trans answered)).symm
    exact leaves_rewritten keyed stands.symm changed (after ▸ written)

/-- A pass has nothing to do: it looks at each object once and at the cluster object, and changes and
    reports nothing. -/
structure Idles (env : Environment ω) (store : ω → Store) (o : Operator) (w : ω)
    (result : Option StatusRequest) : Prop where
  ending : (pass env o w).ending = .done result
  clean : ∀ request ∈ result, request.dirty = false
  requests : (pass env o w).trace.requests =
    (o.resources.map fun r => .get r.kind.kind r.name r.space) ++ [o.lookAtCluster]
  events : (pass env o w).trace.events = []
  unchanged : store (pass env o w).world = store w

/-- Where the references are as they should be, a survey is one look. -/
theorem Survey.idle (serves : env.Serves store) {result : Option StatusRequest}
    (stands : o.cluster (store w) = standing result)
    (present : o.cluster (store w) ≠ .ok .null)
    (clean : ∀ request ∈ result, Projection.update? o.resources request.object = .ok none)
    {ending : Ending (Option StatusRequest)} {t : Trace} (survey : Survey env o w ending t w') :
    ending = .done (result.map fun request => ⟨request.object, false⟩) ∧ store w' = store w ∧
      t = [.call o.lookAtCluster (o.cluster (store w))] := by
  -- What the look found is what stands there, so that only two of the ways are open.
  have settled {v : Value} (here : .ok v = o.cluster (store w)) :
      Projection.update? o.resources v = .ok none ∧
        result.map (fun request => (⟨request.object, false⟩ : StatusRequest)) =
          some ⟨v, false⟩ := by
    rw [stands] at here
    cases result with
    | none => cases here
    | some request =>
      cases here
      exact ⟨clean request rfl, rfl⟩
  cases survey with
  | unread looked other =>
    obtain ⟨same, here⟩ := clusterLooked serves looked
    rw [stands] at here
    cases result with
    | none =>
      cases here
      cases other
    | some request => cases here
  | absent looked nothing =>
    obtain ⟨same, rfl⟩ := clusterLooked serves looked
    refine ⟨?_, same, rfl⟩
    rcases nothing with null | ⟨f, failed, -⟩
    · exact absurd null present
    · rw [stands] at failed
      cases result with
      | none => rfl
      | some request => cases failed
  | uncompared looked fails =>
    obtain ⟨-, here⟩ := clusterLooked serves looked
    obtain ⟨kept, -⟩ := settled here
    rcases fails with failed | ⟨v', changed, -⟩
    · cases kept.symm.trans failed
    · cases kept.symm.trans changed
  | kept looked =>
    obtain ⟨same, here⟩ := clusterLooked serves looked
    obtain ⟨-, clean⟩ := settled here
    exact ⟨by rw [clean], same, by rw [here]⟩
  | refused looked changed | rewritten looked changed =>
    obtain ⟨-, here⟩ := clusterLooked serves looked
    obtain ⟨kept, -⟩ := settled here
    cases kept.symm.trans changed

/-- Where no write is pending and the references are as they should be, a pass has nothing to do. -/
theorem pass_idles (serves : env.Serves store) (keyed : (store w).Keyed)
    (kept : ∀ r ∈ o.resources, r.pending o.recorder.owner (store w) = .ok none)
    {result : Option StatusRequest} (stands : o.cluster (store w) = standing result)
    (clean : ∀ request ∈ result, Projection.update? o.resources request.object = .ok none) :
    Idles env store o w (result.map fun request => ⟨request.object, false⟩) := by
  rcases pass_halves env o w with ⟨f, -, walk⟩ | ⟨t, w₁, u, walk, survey, effects⟩
  · obtain ⟨ended, -⟩ := walk.idle serves kept
    cases ended
  obtain ⟨-, same, rfl⟩ := walk.idle serves kept
  rw [← same] at stands
  have present : o.cluster (store w₁) ≠ .ok .null := same ▸ keyed.get_ne_null _ _ _
  obtain ⟨ended, same', rfl⟩ := survey.idle serves stands present clean
  refine ⟨ended, ?_, ?_, ?_, same'.trans same⟩
  · simp
  · rw [← Trace.requests_effects, effects, Trace.requests_append, Trace.requests_looks]
    rfl
  · rw [← Trace.events_effects, effects, Trace.events_append, Trace.events_looks]
    rfl

/-- What comes of a pass that ends well with a result. -/
structure Projects (env : Environment ω) (store : ω → Store) (o : Operator) (w : ω)
    (result : Option StatusRequest) : Prop where
  /-- there is no result exactly where there is no cluster object -/
  absent : result = none ↔ ∀ v, o.cluster (store w) ≠ .ok v
  refers : ∀ request ∈ result, ∃ v, o.cluster (store (pass env o w).world) = .ok v ∧
    Projection.Refers o.resources v
  resolves : ∀ r ∈ o.resources, (store (pass env o w).world).Resolves r.reference
  /-- the status is written at most once -/
  once : (pass env o w).trace.requests.countP Request.isStatusUpdate ≤ 1
  /-- the status is written exactly where the references were others -/
  needed : 0 < (pass env o w).trace.requests.countP Request.isStatusUpdate ↔
    ∃ v, o.cluster (store w) = .ok v ∧ ¬ Projection.Refers o.resources v
  next : Idles env store o (pass env o w).world
    (result.map fun request => ⟨request.object, false⟩)

/-- A walk writes no status. -/
theorem statusUpdates_walk {rs : List Resource} {ending : Ending Unit} {t : Trace}
    (walk : Pass.Walk env o.recorder rs w ending t w') :
    t.requests.countP Request.isStatusUpdate = 0 := by
  have visited {r : Resource} {w w' : ω} {ending : Ending Unit} {t : Trace}
      (visit : Pass.Visit env o.recorder r w ending t w') :
      t.requests.countP Request.isStatusUpdate = 0 := by
    cases visit with
    | unseen | kept => rfl
    | unwritten looked due | written looked due | unreported looked due =>
      rcases Resource.due_writes due with ⟨body, rfl⟩ | ⟨body, rfl⟩ <;> rfl
  induction walk with
  | nil => rfl
  | step first others ih => rw [Trace.requests_append, List.countP_append, visited first, ih]
  | stop first => exact visited first

section
variable {s s' : Store} {result : Option StatusRequest} {requests : List Request}

/-- The status updates of a survey that ends well are those of its result. -/
theorem Leaves.statusUpdates (leaves : Leaves o s s' result requests) :
    requests.countP Request.isStatusUpdate = (result.filter StatusRequest.dirty).toList.length := by
  rw [leaves.requests]
  cases (result.filter StatusRequest.dirty) <;> rfl

theorem Leaves.once (leaves : Leaves o s s' result requests) :
    requests.countP Request.isStatusUpdate ≤ 1 := by
  rw [leaves.statusUpdates]
  cases result.filter StatusRequest.dirty <;> simp

/-- A survey that ends well writes the status exactly where the references were others. -/
theorem Leaves.needed (leaves : Leaves o s s' result requests) :
    0 < requests.countP Request.isStatusUpdate ↔
      ∃ v, o.cluster s = .ok v ∧ ¬ Projection.Refers o.resources v := by
  rw [leaves.statusUpdates]
  cases result with
  | none =>
    refine ⟨nofun, ?_⟩
    rintro ⟨v, stands, -⟩
    exact absurd stands (leaves.absent.mp rfl v)
  | some request =>
    obtain ⟨v, stood⟩ : ∃ v, o.cluster s = .ok v := by
      simpa using mt leaves.absent.mpr
    have dirty := leaves.dirty request rfl v stood
    cases flag : request.dirty with
    | false =>
      have refers : Projection.Refers o.resources v := by simpa [flag] using dirty
      simp [Option.filter, flag, stood, refers]
    | true =>
      have differ := dirty.mp flag
      simp [Option.filter, flag, stood, differ]

end

/-- A pass that ends well leaves no write pending, and what it leaves of the cluster object is left by
    a survey of the object as it stood before. -/
theorem pass_leaves (serves : env.Serves store) (o : Operator) (w : ω) (keyed : (store w).Keyed)
    {result : Option StatusRequest} (done : (pass env o w).ending = .done result) : ∃ s requests,
    Leaves o s (store (pass env o w).world) result requests ∧
      o.cluster s = o.cluster (store w) ∧
      (∀ r ∈ o.resources, r.pending o.recorder.owner (store (pass env o w).world) = .ok none) ∧
      (pass env o w).trace.requests.countP Request.isStatusUpdate =
        requests.countP Request.isStatusUpdate := by
  rcases pass_halves env o w with ⟨f, failed, -⟩ | ⟨t, w₁, u, walk, survey, effects⟩
  · cases done.symm.trans failed
  rw [done] at survey
  obtain ⟨keyed₁, kept⟩ := walk.frame serves.falters keyed
  have settled := walk.settled serves.falters o.configuration.settings.distinct_kinds keyed rfl
  have leaves := survey.leaves serves keyed₁
  refine ⟨store w₁, u.requests, leaves, ?_, ?_, ?_⟩
  · rw [cluster_eq, cluster_eq, kept o.clusterKey fun r _ => o.not_at_clusterKey r]
  · intro r member
    rw [← settled r member]
    refine Resource.pending_congr _ fun key given => leaves.others key fun same => ?_
    exact kind_ne_hyperConverged r.kind ((Resource.kind_key given).symm.trans same)
  · rw [← Trace.requests_effects, effects, Trace.requests_append, List.countP_append,
      statusUpdates_walk walk, Nat.zero_add]

/-- A pass that ends well leaves references to the managed objects in the status of the cluster object
    and nothing to do for the next pass. -/
theorem pass_projects (serves : env.Serves store) (o : Operator) (w : ω)
    (keyed : (store w).Keyed) (result : Option StatusRequest)
    (done : (pass env o w).ending = .done result) : Projects env store o w result := by
  obtain ⟨s, requests, leaves, before, settled, updates⟩ := pass_leaves serves o w keyed done
  refine {
    absent := before ▸ leaves.absent
    refers := ?_
    resolves := ?_
    once := updates ▸ leaves.once
    needed := by rw [updates, ← before, leaves.needed]
    next := pass_idles serves leaves.keyed settled leaves.stands leaves.clean }
  · rintro request ⟨⟩
    exact ⟨request.object, leaves.stands,
      Projection.refers_of_update? o.resources_ne_nil (leaves.clean request rfl)⟩
  · intro r member
    obtain ⟨v, stands, -⟩ := Resource.inSync_of_pending leaves.keyed (settled r member)
    exact ⟨r.kind.kind, rfl, rfl, v, stands⟩

/-- The settings of a configuration are texts, so that the managed objects have keys and the
    references to them can be compared. -/
theorem exists_key (o : Operator) : ∀ r ∈ o.resources, ∃ key, r.key = .ok key := by
  refine Settings.exists_key ?_ fun kind => by cases kind <;> rfl
  show StoreKey.checkPart ((Value.str o.configuration.space).orElse .null) = .ok ()
  unfold Value.orElse
  split <;> rfl

theorem comparable_reference (o : Operator) :
    ∀ r ∈ o.resources, Projection.Comparable r.reference := by
  intro r member
  obtain ⟨kind, -, rfl⟩ := List.mem_map.mp member
  have name : ∃ s, Resource.name ⟨kind, o.configuration.settings⟩ = .str s := by
    cases kind <;> exact ⟨_, rfl⟩
  obtain ⟨s, name⟩ := name
  refine ⟨⟨_, rfl⟩, ?_⟩
  have space : o.configuration.settings.space = .str o.configuration.space := rfl
  simp [Projection.Plain, Value.lookup, Resource.reference, Fields.getD, Fields.get?, name,
    Resource.space, space]

theorem notice_ok {fs : Fields} (opened : Fields.MetadataOpen fs) (count : Nat) :
    ∃ message, Projection.notice (.obj fs) count = .ok message := by
  simp only [Projection.notice, Resource.metadata_of_open opened]
  exact ⟨_, rfl⟩

/-- Over a store that answers, a pass ends well if all reports are taken or refused by the API and the
    references that stand in the status of the cluster object can be read and compared. -/
theorem pass_done (serves : env.Serves store) (quiet : env.Quiet) (o : Operator) (w : ω)
    (keyed : (store w).Keyed)
    (legible : ∀ v, o.cluster (store w) = .ok v → Projection.Legible v) :
    ∃ result, (pass env o w).ending = .done result := by
  rcases pass_halves env o w with ⟨f, -, walk⟩ | ⟨t, w₁, u, walk, survey, -⟩
  · cases walk.ends serves quiet keyed o.exists_key
  obtain ⟨keyed₁, kept⟩ := walk.frame serves.falters keyed
  have before : o.cluster (store w₁) = o.cluster (store w) := by
    rw [cluster_eq, cluster_eq, kept o.clusterKey fun r _ => o.not_at_clusterKey r]
  generalize (pass env o w).ending = ending at survey
  cases survey with
  | absent | kept | rewritten => exact ⟨_, rfl⟩
  | unread looked other =>
    obtain ⟨-, here⟩ := clusterLooked serves looked
    rw [cluster_eq] at here
    split at here <;> cases here
    cases other
  | uncompared looked fails =>
    obtain ⟨-, here⟩ := clusterLooked serves looked
    obtain ⟨update, compared⟩ :=
      Projection.exists_update? (legible _ (before.symm.trans here.symm)) o.comparable_reference
    rcases fails with failed | ⟨v', changed, failed⟩
    · cases compared.symm.trans failed
    · obtain ⟨own, given, -⟩ := cluster_rewritten keyed₁ here.symm changed
      obtain ⟨fs, _, _, rfl, -⟩ := StoreKey.ofObject_eq_ok.mp given
      obtain ⟨message, worded⟩ := notice_ok (StoreKey.open_of_ofObject given) o.resources.length
      cases worded.symm.trans failed
  | @refused v v' w₁ f w₂ looked changed sent =>
    obtain ⟨same, here⟩ := clusterLooked serves looked
    obtain ⟨own, -, -, written⟩ := cluster_rewritten keyed₁ here.symm changed
    have answered := serves.reply (.updateStatus .hyperConverged v') w₁
    rw [sent, same] at answered
    cases written.symm.trans answered

end Operator

namespace Store

/-- A store with a cluster object whose status refers to an object that is not managed. -/
def stray : Store where
  entries := [(⟨.hyperConverged, "kubevirt-hyperconverged", "kubevirt-hyperconverged"⟩, .obj [
    ("metadata", .obj [
      ("name", "kubevirt-hyperconverged"), ("namespace", "kubevirt-hyperconverged")]),
    ("status", .obj [("relatedObjects", .arr [.obj [
      ("apiVersion", "v1"), ("kind", "ConfigMap"), ("name", "stray")]])])])]

theorem stray_keyed : stray.Keyed := by
  intro e member
  obtain rfl := List.mem_singleton.mp member
  exact ⟨_, rfl, StoreKey.same_refl _⟩

end Store

namespace Operator

theorem pass_projects_stray :
    let env := Store.environment fun _ => none
    env.Serves Prod.snd ∧ Store.stray.Keyed ∧ ∃ result,
      (pass env usual (0, Store.stray)).ending = .done result ∧
        Projects env Prod.snd usual (0, Store.stray) result := by
  intro env
  have serves : env.Serves Prod.snd := Store.environment_serves
  have keyed := Store.stray_keyed
  have legible : ∀ v, usual.cluster Store.stray = .ok v → Projection.Legible v := by
    intro v stands
    cases stands
    refine ⟨_, rfl, List.forall_mem_singleton.mpr ⟨⟨_, rfl⟩, ?_⟩⟩
    simp [Projection.Plain, Value.lookup, Fields.getD, Fields.get?]
  obtain ⟨result, done⟩ :=
    pass_done serves (Store.environment_quiet _) usual (0, Store.stray) keyed legible
  exact ⟨serves, keyed, result, done, pass_projects serves usual (0, Store.stray) keyed result done⟩

end Operator

end MonitoringUpkeep
