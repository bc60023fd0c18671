import MonitoringUpkeep.Proofs.GateAgreement
import MonitoringUpkeep.Proofs.Versions

/-!
# The frame of the operator

Whatever passes and changes of the gate come to, and wherever they are aborted, they touch no object but
the managed ones and the cluster object, and of these nothing but their own places: of the cluster object
the references in its status and the gate, of a managed object its labels, its owners, the content that
belongs to the program, and the version.
-/

namespace MonitoringUpkeep

/-- An environment of a store that nobody else changes: requests are answered by the store or fail before
    they take effect, and neither events nor time leave a trace in it. -/
structure Environment.Alone {ω : Type} (env : Environment ω) (store : ω → Store) : Prop
    extends env.Falters store where
  now : ∀ w, store (env.now w).2 = store w
  wait : ∀ seconds w, store (env.wait seconds w).2 = store w

namespace Store
open Value Fields

theorem updateStatus_failed {s s' : Store} {kind : Kind} {body : Value} {f : Failure}
    (failed : s.updateStatus kind body = (.error f, s')) : s' = s := by
  unfold updateStatus at failed
  split at failed
  · exact (Prod.mk.inj failed).2.symm
  · split at failed
    · exact (Prod.mk.inj failed).2.symm
    · split at failed
      · exact (Prod.mk.inj failed).2.symm
      · cases (Prod.mk.inj failed).1

end Store

namespace Resource
open Value Fields

variable (r : Resource)

/-- The key paths at which a pass may change the object. -/
def places : List (List String) := Store.stampPath :: r.facets

/-- The only value that is given up for an object is one that stands as the specification of a
    service. -/
def Yields (way : List String) (_ : Value) : Prop := r.kind = .service ∧ way = ["spec"]

theorem places_apart : r.places.Pairwise Apart :=
  List.pairwise_cons.mpr ⟨fun p member => (r.facets_apart_stamp p member).symm, r.facets_apart⟩

theorem places_below_metadata : ∀ p ∈ r.places, p ≠ ["metadata"] := by
  obtain ⟨kind, s⟩ := r
  cases kind <;> simp [places, facets, ownedPaths, Store.stampPath]

theorem places_passable {fs : Fields} (opened : MetadataOpen fs) :
    ∀ p ∈ r.places, Passable r.Yields p (.obj fs) := by
  have metadata (key : String) : Passable r.Yields ["metadata", key] (.obj fs) :=
    passable_obj fun child found => passable_singleton (.inl (opened child found))
  have top (key : String) : Passable r.Yields [key] (.obj fs) :=
    passable_singleton (.inl ⟨fs, rfl⟩)
  have specification (service : r.kind = .service) (key : String) :
      Passable r.Yields ["spec", key] (.obj fs) :=
    passable_obj fun child found => passable_singleton (.inr ⟨service, rfl⟩)
  refine List.forall_mem_cons.mpr ⟨metadata _, List.forall_mem_cons.mpr ⟨metadata _,
    List.forall_mem_cons.mpr ⟨metadata _, ?_⟩⟩⟩
  obtain ⟨kind, s⟩ := r
  cases kind with
  | prometheusRule | role | serviceMonitor => exact List.forall_mem_singleton.mpr (top _)
  | roleBinding => exact List.forall_mem_cons.mpr ⟨top _, List.forall_mem_singleton.mpr (top _)⟩
  | service =>
    exact List.forall_mem_cons.mpr ⟨specification rfl _,
      List.forall_mem_singleton.mpr (specification rfl _)⟩

/-- A restored and stamped object is the one before, changed at its places. -/
theorem restored_changed (owner : Owner) {fs : Fields} (opened : MetadataOpen fs) (stamp : Value) :
    ChangedAt r.places r.Yields (.obj fs)
      (.obj (writeAt (r.restored owner fs) Store.stampPath stamp)) := by
  have restored : ChangedAt r.places r.Yields (.obj fs) (.obj (r.restored owner fs)) :=
    .copied r.places_apart (fun _ opened => r.places_passable opened)
      (fun _ opened p member v => opened.writeAt (r.places_below_metadata p member) v)
      (fun p member => List.mem_cons_of_mem _ member) opened (r.desired owner)
  have opened' : MetadataOpen (r.restored owner fs) := r.restored_open owner opened
  exact restored.trans (.writeAt r.places_apart (List.mem_cons_self ..)
    (r.places_passable opened' _ (List.mem_cons_self ..)) stamp)

end Resource

section Rel

variable {α : Type} {R : α → α → Prop} {a b c : Option α}

theorem optionRel_refl (each : ∀ x, R x x) (a : Option α) : Option.Rel R a a := by
  cases a with
  | none => exact .none
  | some x => exact .some (each x)

theorem optionRel_trans (chain : ∀ {x y z}, R x y → R y z → R x z) (first : Option.Rel R a b)
    (later : Option.Rel R b c) : Option.Rel R a c := by
  cases first with
  | none => exact later
  | some before =>
    cases later with
    | some after => exact .some (chain before after)

theorem exists_of_optionRel {x : α} (related : Option.Rel R (some x) b) : ∃ y, b = some y := by
  cases related with
  | some => exact ⟨_, rfl⟩

end Rel

namespace Operator
open Value Fields

/-- The key paths at which the operator may change the cluster object. -/
def clusterPlaces : List (List String) := [Projection.referencesPath, Gate.path]

/-- Of the values on the way to these places only a status that does not count as given is given up for
    an object. -/
def ClusterYields (way : List String) (v : Value) : Prop := way = ["status"] ∧ v.isBlank = true

theorem clusterPlaces_apart : clusterPlaces.Pairwise Apart := by
  refine List.pairwise_pair.mpr (.inl ?_)
  decide

/-- The frame of the operator between two stores. -/
structure Frame (o : Operator) (s s' : Store) : Prop where
  keyed : s'.Keyed
  /-- other objects are as they were -/
  others : ∀ key, (∀ r ∈ o.resources, ¬ r.At key) → ¬ o.clusterKey.same key = true →
    s'.find? key = s.find? key
  /-- the cluster object is changed at its places at most -/
  cluster : Option.Rel (ChangedAt clusterPlaces ClusterYields) (s.find? o.clusterKey)
    (s'.find? o.clusterKey)
  /-- a managed object that was there is changed at its places at most -/
  managed : ∀ r ∈ o.resources, ∀ key, r.At key → ∀ v, s.find? key = some v →
    ∃ v', s'.find? key = some v' ∧ ChangedAt r.places r.Yields v v'

namespace Frame

variable {o : Operator} {s s' s'' : Store}

theorem refl (o : Operator) (keyed : s.Keyed) : Frame o s s where
  keyed := keyed
  others _ _ _ := rfl
  cluster := optionRel_refl ChangedAt.refl _
  managed _ _ _ _ v found := ⟨v, found, .refl v⟩

theorem trans (first : Frame o s s') (later : Frame o s' s'') : Frame o s s'' where
  keyed := later.keyed
  others key elsewhere apart := (later.others key elsewhere apart).trans (first.others key elsewhere apart)
  cluster := optionRel_trans ChangedAt.trans first.cluster later.cluster
  managed r member key here v found := by
    obtain ⟨v', found', changed⟩ := first.managed r member key here v found
    obtain ⟨v'', found'', changed'⟩ := later.managed r member key here v' found'
    exact ⟨v'', found'', changed.trans changed'⟩

/-- No object is deleted. -/
theorem lasting (frame : Frame o s s') {key : StoreKey} {v : Value} (found : s.find? key = some v) :
    ∃ v', s'.find? key = some v' := by
  by_cases cluster : o.clusterKey.same key = true
  · have changed := frame.cluster
    rw [s.find?_congr cluster, s'.find?_congr cluster, found] at changed
    exact exists_of_optionRel changed
  · by_cases managed : ∃ r ∈ o.resources, r.At key
    · obtain ⟨r, member, here⟩ := managed
      obtain ⟨v', found', -⟩ := frame.managed r member key here v found
      exact ⟨v', found'⟩
    · have elsewhere : ∀ r ∈ o.resources, ¬ r.At key :=
        fun r member here => managed ⟨r, member, here⟩
      exact ⟨v, (frame.others key elsewhere cluster).trans found⟩

/-- A service with an object as its specification keeps all fields of it but the ports and the
    selector. -/
theorem service (frame : Frame o s s') {r : Resource} (member : r ∈ o.resources)
    (service : r.kind = .service) {key : StoreKey} (here : r.At key) {v : Value} {fs : Fields}
    (found : s.find? key = some v) (specified : v.seek? ["spec"] = some (.obj fs)) :
    ∃ v' fs', s'.find? key = some v' ∧ v'.seek? ["spec"] = some (.obj fs') ∧
      ∀ field, field ≠ "ports" → field ≠ "selector" → get? fs' field = get? fs field := by
  obtain ⟨v', found', changed⟩ := frame.managed r member key here v found
  have place : ["spec", "ports"] ∈ r.places := by
    simp [Resource.places, Resource.facets, Resource.ownedPaths, service]
  obtain ⟨fs', specified'⟩ : ∃ fs', v'.seek? ["spec"] = some (.obj fs') := by
    rcases changed.ways _ place ["spec"] ⟨["ports"], rfl⟩ (by decide) with same | ⟨object, -⟩
    · exact ⟨fs, same.trans specified⟩
    · exact object
  refine ⟨v', fs', found', specified', fun field ports selector => ?_⟩
  have apart : ∀ p ∈ r.places, Apart p ["spec", field] := by
    simp [Resource.places, Resource.facets, Resource.ownedPaths, service, Store.stampPath, Apart,
      ports.symm, selector.symm]
  rw [← seek?_field specified' field, ← seek?_field specified field]
  exact changed.kept _ apart

end Frame

/-- A write of the cluster object that changes it at its places is within the frame. -/
theorem frame_of_write {o : Operator} {s : Store} (keyed : s.Keyed) {v v' : Value}
    (found : s.find? o.clusterKey = some v) {key own : StoreKey}
    (given : StoreKey.ofObject .hyperConverged v' = .ok own) (same : own.same key = true)
    (here : key.same o.clusterKey = true) (changed : ChangedAt clusterPlaces ClusterYields v v') :
    Frame o s (s.write key v') where
  keyed := keyed.write_same given same
  others other _ apart := by
    have elsewhere : ¬ key.same other = true := fun there =>
      apart (StoreKey.same_trans (StoreKey.same_symm here) there)
    rw [Store.find?_write, if_neg elsewhere]
  cluster := by
    rw [Store.find?_write, if_pos here, found]
    exact .some changed
  managed r _ other kept u stands := by
    have elsewhere : ¬ key.same other = true := by
      intro there
      obtain ⟨own, isOwn, same⟩ := kept
      have sameKey := StoreKey.same_trans (StoreKey.same_symm there) here
      exact o.not_at_clusterKey r ⟨own, isOwn, StoreKey.same_trans same sameKey⟩
    refine ⟨u, ?_, .refl u⟩
    rw [Store.find?_write, if_neg elsewhere, stands]

/-- Two managed objects of the operator do not share a key. -/
theorem eq_of_at {o : Operator} {r r' : Resource} (member : r ∈ o.resources)
    (member' : r' ∈ o.resources) {key : StoreKey} (here : r.At key) (here' : r'.At key) : r = r' := by
  obtain ⟨kind, -, rfl⟩ := List.mem_map.mp member
  obtain ⟨kind', -, rfl⟩ := List.mem_map.mp member'
  have same : kind = kind' := ManagedKind.kind_injective (here.kind.symm.trans here'.kind)
  rw [same]

/-! ## Passes -/

/-- A visit to a managed object is within the frame. -/
theorem frame_of_advance {o : Operator} {r : Resource} {s s' : Store} {wrote : Option Request}
    (member : r ∈ o.resources) (keyed : s.Keyed)
    (advance : r.Advance o.recorder.owner s wrote s') : Frame o s s' where
  keyed := advance.keyed keyed
  others key elsewhere _ := advance.find?_of_not_at keyed (elsewhere r member)
  cluster := by
    rw [advance.find?_of_not_at keyed (o.not_at_clusterKey r)]
    exact (Frame.refl o keyed).cluster
  managed r' member' key here v found := by
    by_cases visited : r.At key
    · obtain rfl := eq_of_at member member' visited here
      rcases advance.find?_at keyed visited with same | ⟨stamp, restored⟩
      · exact ⟨v, same.trans found, .refl v⟩
      · obtain ⟨own, isOwn, -⟩ := keyed.ofObject_find? found
        obtain ⟨fs, rfl⟩ := keyed.exists_obj found
        rw [Resource.base_of_found found] at restored
        exact ⟨_, restored, r.restored_changed _ (StoreKey.open_of_ofObject isOwn) stamp⟩
    · exact ⟨v, (advance.find?_of_not_at keyed visited).trans found, .refl v⟩

section Runs

variable {ω : Type} {env : Environment ω} {store : ω → Store} {o : Operator} {w w' : ω} {t : Trace}

theorem walk_framed (falters : env.Falters store) {rs : List Resource} {ending : Ending Unit}
    (walk : Pass.Walk env o.recorder rs w ending t w') (among : ∀ r ∈ rs, r ∈ o.resources)
    (keyed : (store w).Keyed) : Frame o (store w) (store w') := by
  induction walk with
  | nil => exact .refl o keyed
  | step first others ih =>
    obtain ⟨member, rest⟩ := List.forall_mem_cons.mp among
    obtain ⟨_, advance, -⟩ := first.advance falters keyed
    exact (frame_of_advance member keyed advance).trans (ih rest (advance.keyed keyed))
  | stop first =>
    obtain ⟨_, advance, -⟩ := first.advance falters keyed
    exact frame_of_advance (List.forall_mem_cons.mp among).1 keyed advance

/-- The cluster object with its status written is the one before, changed at its places. -/
theorem status_changed {v v' : Value}
    (changed : Projection.update? o.resources v = .ok (some v')) :
    ChangedAt clusterPlaces ClusterYields v v' := by
  obtain ⟨references, read, -⟩ := Projection.update?_ok_iff.mp changed
  obtain ⟨-, fs, rfl, rfl⟩ := Projection.of_update?_some changed
  refine .writeAt clusterPlaces_apart (List.mem_cons_self ..) (passable_obj fun child found => ?_) _
  -- The references could be read, so that a status that is given is an object.
  simp only [Projection.references, bind_ok_iff, member_ok_iff] at read
  obtain ⟨_, ⟨_, ⟨⟩, rfl⟩, _, ⟨ss, object, -⟩, -⟩ := read
  have stands : getD fs "status" = child := by simp [getD, found]
  rw [stands] at object
  apply passable_singleton
  rcases orElse_cases child (.obj []) with itself | ⟨blank, -⟩
  · exact .inl ⟨ss, itself.symm.trans object⟩
  · exact .inr ⟨rfl, blank⟩

theorem survey_framed (falters : env.Falters store) {ending : Ending (Option StatusRequest)}
    (survey : Survey env o w ending t w') (keyed : (store w).Keyed) :
    Frame o (store w) (store w') := by
  cases survey with
  | unread looked | absent looked | uncompared looked | kept looked =>
    rw [(clusterLooked_falters falters looked).1]
    exact .refl o keyed
  | @refused v v' w₁ f _ looked changed sent =>
    have same := (clusterLooked_falters falters looked).1
    have kept : store w' = store w₁ := by
      rcases falters.reply (.updateStatus .hyperConverged v') w₁ with answered | ⟨_, _, kept⟩
      · rw [sent] at answered
        exact Store.updateStatus_failed answered
      · rwa [sent] at kept
    rw [kept, same]
    exact .refl o keyed
  | @rewritten v v' w₁ u _ looked changed sent =>
    obtain ⟨same, answer⟩ := clusterLooked_falters falters looked
    have stands := answer v rfl
    obtain ⟨own, given, here, written⟩ := cluster_rewritten keyed stands changed
    have answered := falters.sent sent
    rw [same] at answered
    have after : (store w).write own v' = store w' := congrArg Prod.snd (written.symm.trans answered)
    rw [← after]
    exact frame_of_write keyed (cluster_ok_iff.mp stands) given (StoreKey.same_refl own) here
      (status_changed changed)

/-- A pass is within the frame, however it ends. -/
theorem pass_framed (falters : env.Falters store) (o : Operator) (w : ω)
    (keyed : (store w).Keyed) : Frame o (store w) (store (pass env o w).world) := by
  rcases pass_halves env o w with ⟨f, -, walk⟩ | ⟨t, w₁, u, walk, survey, -⟩
  · exact walk_framed falters walk (fun _ member => member) keyed
  · have first := walk_framed falters walk (fun _ member => member) keyed
    exact first.trans (survey_framed falters survey first.keyed)

/-! ## Changes of the gate -/

/-- The patch of the gate, where it goes through, is within the frame. -/
theorem patch_framed {s : Store} (keyed : s.Keyed) {fs : Fields} {enable : Value}
    (found : s.find? o.clusterKey = some (.obj fs))
    (passable : Passable (fun _ _ => False) Gate.path (.obj fs)) :
    Frame o s (s.write o.clusterKey (.obj (writeAt fs Gate.path enable))) := by
  obtain ⟨own, isOwn, here⟩ := keyed.ofObject_find? found
  have given : StoreKey.ofObject .hyperConverged (.obj (writeAt fs Gate.path enable)) = .ok own :=
    StoreKey.ofObject_writeAt isOwn (by simp [Gate.path, Apart]) (by simp [Gate.path, Apart]) _
  refine frame_of_write keyed found given here (StoreKey.same_refl _) ?_
  refine .writeAt clusterPlaces_apart (List.mem_cons_of_mem _ (List.mem_cons_self ..)) ?_ _
  intro way before short v stands
  exact (passable way before short v stands).imp_right False.elim

/-- What a run does over a keyed store: it stays within the frame, and what it writes back it has
    read just before. -/
def Works (o : Operator) (store : ω → Store) (w : ω) (t : Trace) (w' : ω) : Prop :=
  (store w).Keyed → Frame o (store w) (store w') ∧ Versioned t.calls

theorem works_of_same {w w' : ω} {t : Trace} (same : store w' = store w)
    (none : ∀ call ∈ t.calls, call.1.replacement? = none) : Works o store w t w' := by
  intro keyed
  rw [same]
  exact ⟨.refl o keyed, .of_none none⟩

theorem Works.trans {w'' : ω} {u : Trace} (first : Works o store w t w')
    (later : Works o store w' u w'') : Works o store w (t ++ u) w'' := by
  intro keyed
  obtain ⟨frame, versioned⟩ := first keyed
  obtain ⟨frame', versioned'⟩ := later frame.keyed
  rw [Trace.calls_append]
  exact ⟨frame.trans frame', versioned.append versioned'⟩

/-- The steps of a change of the gate. -/
theorem steps_works (alone : env.Alone store) (o : Operator) (g : Gate)
    (given : StoreKey.of .hyperConverged g.clusterName g.space = .ok o.clusterKey) (enable : Value) :
    env.Steps (g.Asks enable) (Works o store) fun _ => True where
  rest w := works_of_same rfl nofun
  chain := Works.trans
  call request asks w := by
    have none (reply : Reply) : ∀ call ∈ Trace.calls [.call request reply],
        call.1.replacement? = none := List.forall_mem_singleton.mpr asks.replaces
    rcases alone.reply request w with answered | ⟨f, -, same⟩
    · have after : store (env.reply request w).2 = ((store w).reply request).2 :=
        (congrArg Prod.snd answered).symm
      cases asks with
      | nodes => exact works_of_same (after.trans ((store w).reply_read rfl)) (none _)
      | watch watches => exact works_of_same (after.trans ((store w).reply_read watches.reads)) (none _)
      | patch =>
        change store (env.reply (g.patchRequest enable) w).2 = ((store w).patch .hyperConverged
          g.clusterName (Gate.operations enable) g.space).2 at after
        rcases Gate.patch_cases (store w) given enable with ⟨f, refused⟩ | ⟨fs, found, passable, written⟩
        · rw [refused] at after
          exact works_of_same after (none _)
        · rw [written] at after
          intro keyed
          rw [after]
          exact ⟨patch_framed keyed found passable, .of_none (none _)⟩
    · exact works_of_same same (none _)
  clock w := works_of_same (alone.now w) nofun
  wait seconds w := works_of_same (alone.wait seconds w) nofun
  log _ _ := works_of_same rfl nofun
  measured _ _ _ := works_of_same rfl nofun
  refused _ _ _ _ _ := trivial
  broken _ _ _ _ := trivial
  own _ _ := trivial

/-! ## Runs -/

/-- What the operator does at a time: a pass, or a change of the gate. -/
inductive Turn where
  | pass
  | change (enable : Value)

/-- What is done in a turn, however it ends, and the world that it leaves. -/
def take (env : Environment ω) (o : Operator) (g : Gate) : Turn → ω → Trace × ω
  | .pass, w => ((pass env o w).trace, (pass env o w).world)
  | .change enable, w => ((g.set env enable w).trace, (g.set env enable w).world)

/-- What is done in turns, one after the other, and the world that they leave. -/
def turns (env : Environment ω) (o : Operator) (g : Gate) : List Turn → ω → Trace × ω
  | [], w => ([], w)
  | turn :: later, w =>
    let now := take env o g turn w
    let rest := turns env o g later now.2
    (now.1 ++ rest.1, rest.2)

section Turns

variable (alone : env.Alone store) (o : Operator) (g : Gate)
  (given : StoreKey.of .hyperConverged g.clusterName g.space = .ok o.clusterKey)
include alone given

theorem take_works (turn : Turn) (w : ω) :
    Works o store w (take env o g turn w).1 (take env o g turn w).2 := by
  cases turn with
  | pass =>
    intro keyed
    exact ⟨pass_framed alone.toFalters o w keyed, pass_versioned alone.toFalters o w keyed⟩
  | change enable =>
    exact (g.keeps_set (steps_works alone o g given enable) (fun _ => trivial)
      (fun _ asks => asks) w).1

theorem turns_works (ts : List Turn) (w : ω) :
    Works o store w (turns env o g ts w).1 (turns env o g ts w).2 := by
  induction ts generalizing w with
  | nil => exact works_of_same rfl nofun
  | cons turn later ih => exact (take_works alone o g given turn w).trans (ih _)

/-- Over a keyed store that nobody else changes, passes and changes of the gate, in any number and order
    and however each ends, leave all other objects as they were and delete none; they change the cluster
    object and the managed ones at their places at most, of a service nothing but the ports and the
    selector of its specification; and what they write back carries the version of that object that
    the request just before has read. -/
theorem turns_framed (ts : List Turn) (w : ω) (keyed : (store w).Keyed) :
    Frame o (store w) (store (turns env o g ts w).2) ∧
      (∀ key v, (store w).find? key = some v →
        ∃ v', (store (turns env o g ts w).2).find? key = some v') ∧
      (∀ r ∈ o.resources, r.kind = .service → ∀ key, r.At key → ∀ v fs,
        (store w).find? key = some v → v.seek? ["spec"] = some (.obj fs) →
        ∃ v' fs', (store (turns env o g ts w).2).find? key = some v' ∧
          v'.seek? ["spec"] = some (.obj fs') ∧
          ∀ field, field ≠ "ports" → field ≠ "selector" → get? fs' field = get? fs field) ∧
      Versioned (turns env o g ts w).1.calls := by
  obtain ⟨frame, versioned⟩ := turns_works alone o g given ts w keyed
  refine ⟨frame, fun key v found => frame.lasting found, ?_, versioned⟩
  intro r member service key here v fs found specified
  exact frame.service member service here found specified

end Turns

end Runs

end Operator

namespace Store

theorem patient_alone (fails : Nat → Option Failure) : (patient fails).Alone Prod.snd where
  toFalters := ⟨(environment_falters fails).reply, fun _ _ _ => rfl⟩
  now _ := rfl
  wait _ _ := rfl

theorem opened_keyed : opened.Keyed := by
  intro e member
  obtain rfl := List.mem_singleton.mp member
  exact ⟨_, rfl, StoreKey.same_refl _⟩

end Store

namespace Operator

/-- The gate is disabled between two passes, the first of which fails at its fourth request. -/
theorem turns_framed_opened :
    let env := Store.patient fun n => if n = 3 then some (.fault .transport "lost") else none
    let gate := gateOf .finite usual.configuration
    let run := turns env usual gate [.pass, .change (.bool false), .pass] (0, Store.opened)
    env.Alone Prod.snd ∧
      StoreKey.of .hyperConverged gate.clusterName gate.space = .ok usual.clusterKey ∧
      Store.opened.Keyed ∧ Frame usual Store.opened run.2.2 ∧ Versioned run.1.calls := by
  intro env gate run
  have alone : env.Alone Prod.snd := Store.patient_alone _
  have given : StoreKey.of .hyperConverged gate.clusterName gate.space = .ok usual.clusterKey :=
    usual.of_clusterKey
  have framed := turns_framed alone usual gate given [.pass, .change (.bool false), .pass]
    (0, Store.opened) Store.opened_keyed
  exact ⟨alone, given, Store.opened_keyed, framed.1, framed.2.2.2⟩

end Operator

end MonitoringUpkeep
