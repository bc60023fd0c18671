import Mathlib.Data.List.Nodup
import MonitoringUpkeep.Proofs.Serving

/-!
# Repairs across failed passes

Passes over a faltering store may end early, any number of times. What they have written so far and
what the store still calls for make up, at every moment, what the store called for at the start. So
each object is written at most once, in order, and when a pass ends well all is written, counted and
reported exactly once.
-/

namespace MonitoringUpkeep

namespace Store

/-- In a keyed store nothing is null. -/
theorem Keyed.get_ne_null {s : Store} (keyed : s.Keyed) (kind : Kind) (name space : Value) :
    s.get kind name space ≠ .ok .null := by
  cases given : StoreKey.of kind name space with
  | error f =>
    rw [s.get_of_no_key given]
    nofun
  | ok key =>
    rw [s.get_of_key given]
    cases found : s.find? key with
    | none => nofun
    | some v =>
      obtain ⟨fs, rfl⟩ := keyed.exists_obj found
      nofun

end Store

namespace Resource

variable {r : Resource} {owner : Owner} {s s' : Store}

/-- The write that a store calls for: a missing object is created, a drifted one is repaired, and one
    as desired is left alone. -/
def wanted (r : Resource) (owner : Owner) (s : Store) : Option Request :=
  match s.get r.kind.kind r.name r.space with
  | .error f => if f.isNotFound then some (.create r.kind.kind (r.desired owner)) else none
  | .ok observed =>
    match r.differs observed (r.desired owner) with
    | .ok true => (r.heal observed (r.desired owner)).toOption.map (.update r.kind.kind)
    | _ => none

theorem wanted_eq_pending (keyed : s.Keyed) (owner : Owner) :
    r.wanted owner s = (r.pending owner s).toOption.join := by
  have asks := r.due_asks owner _ (keyed.get_ne_null r.kind.kind r.name r.space)
  rw [pending]
  unfold wanted
  generalize s.get r.kind.kind r.name r.space = reply at asks
  generalize r.due owner reply = write at asks
  cases asks with
  | missing absent => simp [absent, Except.toOption]
  | unread other => simp [other, Except.toOption]
  | uncompared fails => simp [fails, Except.toOption]
  | inSync same => simp [same, Except.toOption]
  | unhealed drifted fails => simp [drifted, fails, Except.toOption]
  | drifted drifted healed => simp [drifted, healed, Except.toOption]

theorem kind_of_wanted {request : Request} (called : r.wanted owner s = some request) :
    request.kind = r.kind.kind := by
  unfold wanted at called
  split at called
  · split at called
    · obtain rfl := Option.some.inj called
      rfl
    · cases called
  · split at called
    · obtain ⟨body, _, rfl⟩ := Option.map_eq_some_iff.mp called
      rfl
    · cases called

/-- What was written and what is still called for is what was called for. -/
theorem Advance.wanted {wrote : Option Request} (advance : r.Advance owner s wrote s')
    (keyed : s.Keyed) :
    wrote.toList ++ (r.wanted owner s').toList = (r.wanted owner s).toList := by
  cases wrote with
  | none =>
    cases advance
    rfl
  | some request =>
    have settled := advance.settled keyed
    have keyed' := advance.keyed keyed
    cases advance with
    | write pending sent =>
      simp [wanted_eq_pending keyed, wanted_eq_pending keyed', pending, settled, Except.toOption]

end Resource

namespace Pass

variable {ω : Type} {env : Environment ω} {store : ω → Store} {recorder : Recorder}
  {rs : List Resource} {w w' : ω} {t u : Trace} {ending : Ending Unit}

/-- The writes that a store calls for, in the order of the objects. -/
def plan (owner : Owner) (s : Store) (rs : List Resource) : List (Resource × Request) :=
  rs.flatMap fun r => (r.wanted owner s).toList.map (r, ·)

/-- The outcomes of a number of passes, one after the other. -/
def series (env : Environment ω) (recorder : Recorder) (rs : List Resource) :
    Nat → ω → List (Outcome ω Unit)
  | 0, _ => []
  | n + 1, w => run env recorder rs w :: series env recorder rs n (run env recorder rs w).world

/-- What the passes of a series do, first to last. -/
def joined (outcomes : List (Outcome ω Unit)) : Trace := outcomes.flatMap Outcome.trace

/-- What passes from a store do about its objects. -/
structure RepairsOnce (recorder : Recorder) (rs : List Resource) (s : Store)
    (outcomes : List (Outcome ω Unit)) : Prop where
  /-- what is written is called for, in the order of the objects -/
  inOrder : (joined outcomes).writes <+: (plan recorder.owner s rs).map Prod.snd
  /-- no two writes are of one kind -/
  once : ((joined outcomes).writes.map Request.kind).Nodup
  /-- what was as desired is not written -/
  spared : ∀ r ∈ rs, ∀ observed, s.get r.kind.kind r.name r.space = .ok observed →
    r.differs observed (r.desired recorder.owner) = .ok false →
    ∀ request ∈ (joined outcomes).writes, request.kind ≠ r.kind.kind
  /-- once a pass has ended well, all that was called for is written, counted and reported -/
  complete : (∃ o ∈ outcomes, o.ending = .done ()) →
    Tells (plan recorder.owner s rs) (joined outcomes)

theorem Tells.nil : Tells [] [] := ⟨rfl, rfl, fun _ _ => rfl⟩

theorem Tells.append {done more : List (Resource × Request)} (first : Tells done t)
    (second : Tells more u) : Tells (done ++ more) (t ++ u) := by
  refine ⟨?_, ?_, ?_⟩
  · rw [Trace.writes_append, first.writes, second.writes, List.map_append]
  · rw [Trace.events_append, first.events, second.events, List.map_append]
  · intro kind created
    rw [Trace.counters_append, List.count_append, first.counters, second.counters, List.map_append,
      List.count_append]

theorem Tells.of_effects {done : List (Resource × Request)} (tells : Tells done t.effects) :
    Tells done t := by
  obtain ⟨writes, events, counters⟩ := tells
  simp only [Trace.writes_effects, Trace.events_effects, Trace.counters_effects] at *
  exact ⟨writes, events, counters⟩

theorem plan_cons (owner : Owner) (s : Store) (r : Resource) (rs : List Resource) :
    plan owner s (r :: rs) = (r.wanted owner s).toList.map (r, ·) ++ plan owner s rs := rfl

theorem plan_congr {owner : Owner} {s s' : Store}
    (same : ∀ r ∈ rs, r.wanted owner s = r.wanted owner s') :
    plan owner s rs = plan owner s' rs := by
  induction rs with
  | nil => rfl
  | cons r rest ih =>
    have parts := List.forall_mem_cons.mp same
    rw [plan_cons, plan_cons, parts.1, ih parts.2]

/-- A visit to an object leaves alone what is called for by objects of other kinds. -/
theorem plan_advance {r : Resource} {owner : Owner} {s s' : Store} {wrote : Option Request}
    (advance : r.Advance owner s wrote s') (keyed : s.Keyed)
    (fresh : r.kind ∉ rs.map Resource.kind) : plan owner s' rs = plan owner s rs := by
  apply plan_congr
  intro r' member
  have other : r'.kind ≠ r.kind := by
    intro same
    exact fresh (List.mem_map.mpr ⟨r', member, same⟩)
  rw [Resource.wanted_eq_pending (advance.keyed keyed), Resource.wanted_eq_pending keyed,
    advance.pending_of_kind keyed other]

theorem mem_plan {owner : Owner} {s : Store} {p : Resource × Request} :
    p ∈ plan owner s rs ↔ p.1 ∈ rs ∧ p.1.wanted owner s = some p.2 := by
  constructor
  · intro member
    obtain ⟨r, inList, entry⟩ := List.mem_flatMap.mp member
    obtain ⟨request, called, rfl⟩ := List.mem_map.mp entry
    exact ⟨inList, Option.mem_toList.mp called⟩
  · rintro ⟨inList, called⟩
    exact List.mem_flatMap.mpr ⟨p.1, inList,
      List.mem_map.mpr ⟨p.2, Option.mem_toList.mpr called, rfl⟩⟩

theorem plan_kinds (owner : Owner) (s : Store) (rs : List Resource) :
    ((plan owner s rs).map fun p => p.2.kind).Sublist (rs.map fun r => r.kind.kind) := by
  induction rs with
  | nil => exact .slnil
  | cons r rest ih =>
    rw [plan_cons]
    cases called : r.wanted owner s with
    | none => exact ih.cons _
    | some request =>
      simp only [Option.toList_some, List.map_cons, List.map_nil, List.singleton_append,
        Resource.kind_of_wanted called]
      exact ih.cons_cons _

/-- After a walk that ends well nothing is called for. -/
theorem Walk.plan_settled (falters : env.Falters store) (distinct : (rs.map Resource.kind).Nodup)
    (walk : Walk env recorder rs w (.done ()) t w') (keyed : (store w).Keyed) :
    plan recorder.owner (store w') rs = [] := by
  have settled := walk.settled falters distinct keyed rfl
  have keyed' := (walk.frame falters keyed).1
  apply List.flatMap_eq_nil_iff.mpr
  intro r member
  rw [Resource.wanted_eq_pending keyed', settled r member]
  rfl

/-- Along a walk, what was written and what is still called for make up what was called for at the
    start. -/
theorem Walk.progress (falters : env.Falters store) (distinct : (rs.map Resource.kind).Nodup)
    (walk : Walk env recorder rs w ending t w') (keyed : (store w).Keyed) : ∃ done,
      Tells done t ∧
      done ++ plan recorder.owner (store w') rs = plan recorder.owner (store w) rs := by
  induction walk with
  | nil w => exact ⟨[], .nil, rfl⟩
  | @step r rest w w₁ w₂ ending t u first others ih =>
    obtain ⟨wrote, advance, tells, settled⟩ := first.advance falters keyed
    obtain ⟨fresh, distinct⟩ := List.nodup_cons.mp distinct
    have keyed₁ := advance.keyed keyed
    obtain ⟨more, tellsMore, rest_eq⟩ := ih distinct keyed₁
    have keyed₂ := (others.frame falters keyed₁).1
    -- The later visits are to objects of other kinds, so the first object stays settled.
    have kept : r.wanted recorder.owner (store w₂) = r.wanted recorder.owner (store w₁) := by
      rw [Resource.wanted_eq_pending keyed₂, Resource.wanted_eq_pending keyed₁,
        others.pending_of_kind falters keyed₁ fresh]
    have nothing : r.wanted recorder.owner (store w₁) = none := by
      rw [Resource.wanted_eq_pending keyed₁, settled rfl]
      rfl
    have ahead : plan recorder.owner (store w₁) rest = plan recorder.owner (store w) rest :=
      plan_advance advance keyed fresh
    refine ⟨_, tells.append tellsMore, ?_⟩
    rw [plan_cons, plan_cons, kept, nothing, ← ahead, ← rest_eq, ← advance.wanted keyed, nothing]
    simp
  | @stop r rest w w₁ f t first =>
    obtain ⟨wrote, advance, tells, _⟩ := first.advance falters keyed
    obtain ⟨fresh, _⟩ := List.nodup_cons.mp distinct
    refine ⟨_, tells, ?_⟩
    rw [plan_cons, plan_cons, plan_advance advance keyed fresh, ← advance.wanted keyed]
    simp

/-- What is left after a series is nothing if one of its passes ended well. -/
theorem series_progress (falters : env.Falters store) (distinct : (rs.map Resource.kind).Nodup)
    (recorder : Recorder) (n : Nat) (w : ω) (keyed : (store w).Keyed) : ∃ done left,
      Tells done (joined (series env recorder rs n w)) ∧
      done ++ left = plan recorder.owner (store w) rs ∧
      ((∃ o ∈ series env recorder rs n w, o.ending = .done ()) → left = []) := by
  induction n generalizing w with
  | zero => exact ⟨[], _, .nil, rfl, by rintro ⟨o, member, _⟩; cases member⟩
  | succ n ih =>
    have walk := run_walk env recorder rs w
    obtain ⟨done, tells, start⟩ := walk.progress falters distinct keyed
    obtain ⟨more, left, tellsMore, rest, ended⟩ := ih _ (walk.frame falters keyed).1
    refine ⟨done ++ more, left, tells.of_effects.append tellsMore, ?_, ?_⟩
    · rw [List.append_assoc, rest, start]
    · rintro ⟨o, member, isDone⟩
      rcases List.mem_cons.mp member with rfl | later
      · rw [isDone] at walk
        rw [walk.plan_settled falters distinct keyed] at rest
        exact (List.append_eq_nil_iff.mp rest).2
      · exact ended ⟨o, later, isDone⟩

/-- Over any number of passes, each of which may fail at any request, every object is repaired at
    most once, and exactly once by the end of the first pass that ends well. -/
theorem series_repairs_once (falters : env.Falters store) (settings : Settings)
    (recorder : Recorder) (w : ω) (keyed : (store w).Keyed) (n : Nat) :
    RepairsOnce recorder settings.resources (store w)
      (series env recorder settings.resources n w) := by
  have distinct := settings.distinct_kinds
  obtain ⟨done, left, tells, total, ended⟩ :=
    series_progress falters distinct recorder n w keyed
  have inOrder : done.map Prod.snd <+: (plan recorder.owner (store w) settings.resources).map
      Prod.snd := ⟨left.map Prod.snd, by rw [← List.map_append, total]⟩
  refine ⟨?_, ?_, ?_, ?_⟩
  · rw [tells.writes]
    exact inOrder
  · have injective : Function.Injective ManagedKind.kind := fun _ _ => ManagedKind.kind_injective
    have kinds := List.Nodup.map injective distinct
    have planned := plan_kinds recorder.owner (store w) settings.resources
    have ordered := (inOrder.map Request.kind).sublist
    rw [List.map_map] at kinds
    rw [List.map_map, List.map_map] at ordered
    rw [tells.writes, List.map_map]
    exact kinds.sublist (ordered.trans planned)
  · intro r member observed found same request written sameKind
    rw [tells.writes] at written
    obtain ⟨p, planned, rfl⟩ := List.mem_map.mp (inOrder.subset written)
    obtain ⟨inList, called⟩ := mem_plan.mp planned
    obtain rfl : p.1 = r := List.inj_on_of_nodup_map distinct inList member
      (ManagedKind.kind_injective ((Resource.kind_of_wanted called).symm.trans sameKind))
    simp [Resource.wanted, found, same] at called
  · intro isEnded
    obtain rfl := ended isEnded
    rw [List.append_nil] at total
    rw [← total]
    exact tells

/-- The Role of a tampered store is repaired and the four missing objects are created by two passes,
    the first of which fails when it repairs the Role. -/
theorem series_repairs_once_tampered :
    let settings : Settings := { space := "kubevirt" }
    let recorder : Recorder := { owner := { name := "hco-operator", space := "kubevirt", uid := "1" } }
    let env := Store.environment fun n => if n = 3 then some .alreadyExists else none
    let passes := series env recorder settings.resources 2 (0, Store.tampered)
    env.Falters Prod.snd ∧ Store.tampered.Keyed ∧
      RepairsOnce recorder settings.resources Store.tampered passes ∧
      passes.map (fun o => (o.ending.isDone, o.trace.writes.length)) = [(false, 1), (true, 4)] ∧
      (joined passes).writes.map (fun request => (request.isCreation, request.kind)) =
        [(true, .prometheusRule), (false, .role), (true, .roleBinding), (true, .service),
          (true, .serviceMonitor)] ∧
      (joined passes).events = [
        Event.created "PrometheusRule" "kubevirt-hyperconverged-prometheus-rule",
        Event.updated "Role" "hco-operator-metrics",
        Event.created "RoleBinding" "hco-operator-metrics",
        Event.created "Service" "kubevirt-hyperconverged-operator-metrics",
        Event.created "ServiceMonitor" "kubevirt-hyperconverged-operator-metrics"] := by
  intro settings recorder env passes
  have once : RepairsOnce recorder settings.resources Store.tampered passes :=
    series_repairs_once (Store.environment_falters _) settings recorder (0, Store.tampered)
      Store.tampered_keyed 2
  have parts : passes.map (fun o => (o.ending.isDone, o.trace.writes.length)) =
      [(false, 1), (true, 4)] := by decide +kernel
  have ended : ∃ o ∈ passes, o.ending = .done () := by
    have among : (true, 4) ∈ passes.map fun o => (o.ending.isDone, o.trace.writes.length) := by
      simp [parts]
    obtain ⟨o, member, second⟩ := List.mem_map.mp among
    refine ⟨o, member, ?_⟩
    cases went : o.ending with
    | done => rfl
    | failed | unfinished => simp [went, Ending.isDone] at second
  have tells := once.complete ended
  refine ⟨Store.environment_falters _, Store.tampered_keyed, once, parts, ?_, ?_⟩
  · rw [tells.writes, List.map_map]
    decide +kernel
  · rw [tells.events]
    rfl

end Pass

end MonitoringUpkeep
