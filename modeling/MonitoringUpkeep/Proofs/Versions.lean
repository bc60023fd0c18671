import MonitoringUpkeep.Proofs.GateKeeping
import MonitoringUpkeep.Proofs.PathFrame
import MonitoringUpkeep.Proofs.StatusProjection

/-!
# Versions of written objects

The store stamps an object with a version each time it is written as a whole. Whoever writes an object
back says by its version which one was read, so that a change in between can be found out. Every object
that the operator writes back in place of another, or whose status it writes, was read from the store
by the request just before, and carries the version that it had there.
-/

namespace MonitoringUpkeep

/-- What a request puts in the place of an object, or of its status. -/
def Request.replacement? : Request → Option (Kind × Value)
  | .update kind body | .updateStatus kind body => some (kind, body)
  | _ => none

/-- A call has read the object that is to be replaced, in the version that the replacement carries. -/
def Vouches (kind : Kind) (body : Value) (call : Request × Reply) : Prop :=
  ∃ name space observed key own, call = (.get kind name space, .ok observed) ∧
    StoreKey.of kind name space = .ok key ∧ StoreKey.ofObject kind body = .ok own ∧
    own.same key = true ∧ body.seek? Store.stampPath = observed.seek? Store.stampPath

/-- Every replacement among calls is vouched for by the call just before. -/
def Versioned (calls : List (Request × Reply)) : Prop :=
  ∀ before call after, calls = before ++ call :: after →
    ∀ kind body, call.1.replacement? = some (kind, body) →
      ∃ looked, before.getLast? = some looked ∧ Vouches kind body looked

namespace Versioned

theorem of_none {calls : List (Request × Reply)}
    (none : ∀ call ∈ calls, call.1.replacement? = none) : Versioned calls := by
  rintro before call after rfl kind body replaces
  rw [none call (List.mem_append_right _ (List.mem_cons_self ..))] at replaces
  cases replaces

theorem pair {looked call : Request × Reply} (first : looked.1.replacement? = none)
    (vouched : ∀ kind body, call.1.replacement? = some (kind, body) → Vouches kind body looked) :
    Versioned [looked, call] := by
  intro before other after same kind body replaces
  cases before with
  | nil =>
    obtain ⟨rfl, -⟩ := List.cons.inj same
    rw [first] at replaces
    cases replaces
  | cons head before =>
    simp only [List.cons_append, List.cons.injEq] at same
    obtain ⟨rfl, same⟩ := same
    cases before with
    | nil =>
      obtain ⟨rfl, -⟩ := List.cons.inj same
      exact ⟨looked, rfl, vouched kind body replaces⟩
    | cons _ before => cases before <;> cases (List.cons.inj same).2

theorem append {calls calls' : List (Request × Reply)} (first : Versioned calls)
    (later : Versioned calls') : Versioned (calls ++ calls') := by
  intro before call after same kind body replaces
  rcases List.append_eq_append_iff.mp same with ⟨before', rfl, rest⟩ | ⟨rest, whole, others⟩
  · obtain ⟨looked, last, vouches⟩ := later before' call after rest kind body replaces
    exact ⟨looked, by rw [List.getLast?_append, last]; rfl, vouches⟩
  · cases rest with
    | nil =>
      obtain ⟨looked, last, -⟩ := later [] call after others.symm kind body replaces
      cases last
    | cons head rest =>
      obtain ⟨rfl, -⟩ := List.cons.inj others
      exact first before call rest whole kind body replaces

end Versioned

/-- What a store has given out stands in it. -/
theorem Store.find?_of_get {s : Store} {kind : Kind} {name space v : Value}
    (got : s.get kind name space = .ok v) :
    ∃ key, StoreKey.of kind name space = .ok key ∧ s.find? key = some v := by
  cases given : StoreKey.of kind name space with
  | error f => cases (s.get_of_no_key given).symm.trans got
  | ok key =>
    rw [s.get_of_key given] at got
    cases found : s.find? key with
    | none =>
      rw [found] at got
      cases got
    | some u =>
      rw [found] at got
      cases got
      exact ⟨key, rfl, found⟩

/-- What a repair writes back carries the version of the object that it repairs. -/
theorem Resource.vouches_repair {r : Resource} {owner : Owner} {s : Store} (keyed : s.Keyed)
    {observed body : Value} (looked : s.get r.kind.kind r.name r.space = .ok observed)
    (healed : r.heal observed (r.desired owner) = .ok body) :
    Vouches r.kind.kind body (r.look, .ok observed) := by
  obtain ⟨key, given, found⟩ := Store.find?_of_get looked
  obtain ⟨own, isOwn, same⟩ := keyed.ofObject_find? found
  rw [kind_key given] at isOwn
  obtain ⟨fs, _, _, rfl, _⟩ := StoreKey.ofObject_eq_ok.mp isOwn
  rw [heal_obj r owner (StoreKey.open_of_ofObject isOwn)] at healed
  obtain rfl := Except.ok.inj healed
  exact ⟨r.name, r.space, .obj fs, key, own, rfl, given, r.ofObject_restored owner isOwn, same,
    Fields.seek?_copied_of_apart r.facets_apart_stamp fs⟩

section Passes

variable {ω : Type} {env : Environment ω} {store : ω → Store} {w w' : ω} {t : Trace}

/-- The write that is due after a look is no replacement, or one that the look vouches for. -/
theorem Environment.Falters.vouches_due (falters : env.Falters store) (keyed : (store w).Keyed)
    {r : Resource} {owner : Owner} {reply : Reply} {request : Request}
    (looked : env.reply r.look w = (reply, w')) (due : r.due owner reply = .ok (some request)) :
    ∀ kind body, request.replacement? = some (kind, body) → Vouches kind body (r.look, reply) := by
  intro kind body replaces
  by_cases null : reply = .ok .null
  · subst null
    cases due
    cases replaces
  · have asks := r.due_asks owner reply null
    rw [due] at asks
    cases asks with
    | missing => cases replaces
    | @drifted observed repaired _ healed =>
      cases replaces
      obtain ⟨-, answer | ⟨f, failed⟩⟩ := falters.looked looked
      · exact Resource.vouches_repair keyed answer.symm healed
      · cases failed

namespace Pass

variable {recorder : Recorder} {r : Resource} {ending : Ending Unit}

theorem Visit.versioned (falters : env.Falters store) (keyed : (store w).Keyed)
    (visit : Visit env recorder r w ending t w') : Versioned t.calls := by
  cases visit with
  | unseen looked due | kept looked due => exact .of_none (List.forall_mem_singleton.mpr rfl)
  | unwritten looked due | written looked due | unreported looked due =>
    exact .pair rfl (falters.vouches_due keyed looked due)

theorem Walk.versioned (falters : env.Falters store) {rs : List Resource}
    (walk : Walk env recorder rs w ending t w') (keyed : (store w).Keyed) : Versioned t.calls := by
  induction walk with
  | nil => exact .of_none nofun
  | step first others ih =>
    obtain ⟨_, advance, _⟩ := first.advance falters keyed
    rw [Trace.calls_append]
    exact (first.versioned falters keyed).append (ih (advance.keyed keyed))
  | stop first => exact first.versioned falters keyed

end Pass

namespace Operator

variable {o : Operator}

/-- A look at the cluster object is answered by the store or fails, and changes nothing. -/
theorem clusterLooked_falters (falters : env.Falters store) {reply : Reply}
    (looked : env.reply o.lookAtCluster w = (reply, w')) :
    store w' = store w ∧ ∀ v, reply = .ok v → o.cluster (store w) = .ok v := by
  rcases falters.reply o.lookAtCluster w with answered | ⟨f, failed, same⟩
  · rw [looked] at answered
    obtain ⟨rfl, same⟩ := Prod.mk.inj answered
    exact ⟨same.symm, fun v here => here⟩
  · rw [looked] at failed same
    refine ⟨same, fun v here => ?_⟩
    cases failed.symm.trans here

/-- The status that is written back is vouched for by the look at the cluster object. -/
theorem vouches_status {s : Store} (keyed : s.Keyed) {v v' : Value} (stands : o.cluster s = .ok v)
    (changed : Projection.update? o.resources v = .ok (some v')) :
    Vouches .hyperConverged v' (o.lookAtCluster, .ok v) := by
  obtain ⟨own, given, same, -⟩ := cluster_rewritten keyed stands changed
  obtain ⟨-, fs, rfl, rfl⟩ := Projection.of_update?_some changed
  have apart : Apart Projection.referencesPath Store.stampPath := .inl (by decide)
  exact ⟨_, _, .obj fs, o.clusterKey, own, rfl, o.of_clusterKey, given, same,
    Fields.seek?_writeAt_of_apart apart fs _⟩

theorem Survey.versioned (falters : env.Falters store) (keyed : (store w).Keyed)
    {ending : Ending (Option StatusRequest)} (survey : Survey env o w ending t w') :
    Versioned t.calls := by
  cases survey with
  | unread | absent | uncompared | kept => exact .of_none (List.forall_mem_singleton.mpr rfl)
  | refused looked changed | rewritten looked changed =>
    refine .pair rfl ?_
    rintro _ _ ⟨⟩
    exact vouches_status keyed ((clusterLooked_falters falters looked).2 _ rfl) changed

/-- What a pass writes back it has read just before, in the same version. -/
theorem pass_versioned (falters : env.Falters store) (o : Operator) (w : ω)
    (keyed : (store w).Keyed) : Versioned (pass env o w).trace.calls := by
  rw [← Trace.calls_effects]
  rcases pass_halves env o w with ⟨f, -, walk⟩ | ⟨t, w₁, u, walk, survey, effects⟩
  · exact walk.versioned falters keyed
  · rw [effects, Trace.calls_append]
    exact (walk.versioned falters keyed).append
      (survey.versioned falters (walk.frame falters keyed).1)

end Operator

end Passes

namespace Gate

/-- A change of the gate replaces no object. -/
theorem Asks.replaces {g : Gate} {enable : Value} {request : Request} (asks : g.Asks enable request) :
    request.replacement? = none := by
  cases asks with
  | nodes | patch => rfl
  | watch watches => cases watches <;> rfl

end Gate

end MonitoringUpkeep
