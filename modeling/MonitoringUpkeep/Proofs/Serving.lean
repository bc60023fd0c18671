import MonitoringUpkeep.Proofs.Pending

/-!
# Passes over a store

An environment serves a store when its replies are those of the store and no one else writes there.
It falters when any request may also fail before it takes effect. In either, a visit does to the
store nothing, or the write that is pending, and a visit that ends well leaves nothing pending. So a
walk over objects of different kinds that ends well leaves nothing pending for any of them.
-/

namespace MonitoringUpkeep

namespace Request

/-- Whether a request changes an object. -/
def changes : Request → Bool
  | .get .. | .list .. => false
  | _ => true

end Request

namespace Trace

/-- The changes in a trace that were done. -/
def writes (t : Trace) : List Request := t.filterMap fun
  | .call request (.ok _) => if request.changes then some request else none
  | _ => none

@[simp] theorem writes_append (t u : Trace) : writes (t ++ u) = writes t ++ writes u :=
  List.filterMap_append

theorem writes_look (r : Resource) (reply : Reply) (t : Trace) :
    writes (.call r.look reply :: t) = writes t := by
  cases reply <;> rfl

section Looks

variable (rs : List Resource) (replies : Resource → Reply)

theorem requests_looks : requests (rs.map fun r => .call r.look (replies r)) =
    rs.map Resource.look := by
  rw [requests, List.filterMap_map]
  exact congrFun List.filterMap_eq_map' rs

theorem events_looks : events (rs.map fun r => .call r.look (replies r)) = [] := by
  rw [events, List.filterMap_map]
  exact List.filterMap_eq_nil_iff.mpr fun _ _ => rfl

theorem counters_looks : counters (rs.map fun r => .call r.look (replies r)) = [] := by
  rw [counters, List.filterMap_map]
  exact List.filterMap_eq_nil_iff.mpr fun _ _ => rfl

end Looks

@[simp] theorem writes_effects (t : Trace) : writes (effects t) = writes t :=
  filterMap_effects (fun _ => rfl) t

end Trace

namespace Environment

variable {ω : Type}

/-- The store answers all requests and nothing else changes it. -/
structure Serves (env : Environment ω) (store : ω → Store) : Prop where
  reply : ∀ request w, (store w).reply request =
    ((env.reply request w).1, store (env.reply request w).2)
  deliver : ∀ space body w, store (env.deliver space body w).2 = store w

/-- The store answers requests, or they fail before they take effect, and nothing else changes
    it. -/
structure Falters (env : Environment ω) (store : ω → Store) : Prop where
  reply : ∀ request w, (store w).reply request =
      ((env.reply request w).1, store (env.reply request w).2) ∨
    ∃ f, (env.reply request w).1 = .error f ∧ store (env.reply request w).2 = store w
  deliver : ∀ space body w, store (env.deliver space body w).2 = store w

variable {env : Environment ω} {store : ω → Store}

/-- A look is answered by the store and changes nothing. -/
theorem Serves.looked (serves : env.Serves store) {r : Resource} {reply : Reply} {w w' : ω}
    (looked : env.reply r.look w = (reply, w')) :
    store w' = store w ∧ reply = (store w).get r.kind.kind r.name r.space := by
  have answered := serves.reply r.look w
  rw [looked] at answered
  have parts := Prod.mk.inj answered
  exact ⟨parts.2.symm, parts.1.symm⟩

theorem Serves.falters (serves : env.Serves store) : env.Falters store :=
  ⟨fun request w => .inl (serves.reply request w), serves.deliver⟩

namespace Falters

variable {w w' : ω}

/-- A look is answered by the store, or fails, and changes nothing. -/
theorem looked (falters : env.Falters store) {r : Resource} {reply : Reply}
    (looked : env.reply r.look w = (reply, w')) : store w' = store w ∧
      (reply = (store w).get r.kind.kind r.name r.space ∨ ∃ f, reply = .error f) := by
  rcases falters.reply r.look w with answered | ⟨f, failed, same⟩
  · rw [looked] at answered
    have parts := Prod.mk.inj answered
    exact ⟨parts.2.symm, .inl parts.1.symm⟩
  · rw [looked] at failed same
    exact ⟨same, .inr ⟨f, failed⟩⟩

/-- What was done was done by the store. -/
theorem sent (falters : env.Falters store) {request : Request} {v : Value}
    (sent : env.reply request w = (.ok v, w')) : (store w).reply request = (.ok v, store w') := by
  rcases falters.reply request w with answered | ⟨f, failed, _⟩
  · rw [answered, sent]
  · rw [sent] at failed
    cases failed

/-- A report leaves the store alone, delivered or not. -/
theorem reported (falters : env.Falters store) {space body : Value} {answer : Except Failure Unit}
    (delivered : env.deliver space body w = (answer, w')) : store w' = store w := by
  have same := falters.deliver space body w
  rwa [delivered] at same

/-- A due write that fails changes nothing. -/
theorem refused (falters : env.Falters store) {r : Resource} {owner : Owner} {reply : Reply}
    {request : Request} {f : Failure} (due : r.due owner reply = .ok (some request))
    (sent : env.reply request w = (.error f, w')) : store w' = store w := by
  rcases falters.reply request w with answered | ⟨g, _, same⟩
  · rw [sent] at answered
    rcases r.due_writes due with ⟨body, rfl⟩ | ⟨body, rfl⟩
    · exact Store.writeWhole_failed answered
    · exact Store.writeWhole_failed answered
  · rw [sent] at same
    exact same

/-- A write that was due and was done is the one that is pending in the store, even where the look
    failed as if the object were missing. -/
theorem advance (falters : env.Falters store) {r : Resource} {owner : Owner} {reply : Reply}
    {request : Request} {v : Value} {w₁ : ω} (looked : env.reply r.look w = (reply, w₁))
    (due : r.due owner reply = .ok (some request)) (sent : env.reply request w₁ = (.ok v, w')) :
    r.Advance owner (store w) (some request) (store w') := by
  obtain ⟨same, answer⟩ := falters.looked looked
  have written := falters.sent sent
  rw [same] at written
  rcases answer with rfl | ⟨f, rfl⟩
  · exact .write due written
  -- The look failed as if the object were missing; that it could be created shows that it was.
  · by_cases missing : f.isNotFound
    · simp only [Resource.due, missing, if_true, Except.ok.injEq, Option.some.injEq] at due
      subst due
      exact .write (Resource.pending_of_created written) written
    · simp [Resource.due, missing] at due

end Falters

end Environment

namespace Pass

variable {ω : Type} {env : Environment ω} {store : ω → Store} {recorder : Recorder} {r : Resource}
  {w w' : ω} {t : Trace} {ending : Ending Unit}

/-- A trace tells of writes of objects: they are what was written, counted and reported, in
    order. -/
structure Tells (done : List (Resource × Request)) (t : Trace) : Prop where
  writes : t.writes = done.map Prod.snd
  events : t.events = done.map fun p => p.1.report p.2
  counters : ∀ kind created, t.counters.count (.writes kind created) =
    (done.map fun p => p.1.tally p.2).count (.writes kind created)

/-- A visit does nothing to the store, or the write that is pending, and where it ends well none is
    pending afterwards. -/
theorem Visit.advance (falters : env.Falters store) (keyed : (store w).Keyed)
    (visit : Visit env recorder r w ending t w') : ∃ wrote,
      r.Advance recorder.owner (store w) wrote (store w') ∧
      Tells (wrote.toList.map (r, ·)) t ∧
      (ending = .done () → r.pending recorder.owner (store w') = .ok none) := by
  cases visit with
  | unseen looked due =>
    refine ⟨none, ?_, ⟨Trace.writes_look r _ _, rfl, fun _ _ => rfl⟩, nofun⟩
    rw [(falters.looked looked).1]
    exact .rest
  | kept looked due =>
    obtain ⟨same, rfl | ⟨f, rfl⟩⟩ := falters.looked looked
    · rw [same]
      exact ⟨none, .rest, ⟨Trace.writes_look r _ _, rfl, fun _ _ => rfl⟩, fun _ => due⟩
    · by_cases missing : f.isNotFound <;> simp [Resource.due, missing] at due
  | unwritten looked due sent =>
    refine ⟨none, ?_, ⟨Trace.writes_look r _ _, rfl, fun _ _ => rfl⟩, nofun⟩
    rw [falters.refused due sent, (falters.looked looked).1]
    exact .rest
  | @written _ _ request _ _ _ _ looked due sent delivered accepted =>
    have advance := falters.advance looked due sent
    rw [falters.reported delivered]
    refine ⟨some request, advance, ⟨?_, rfl, fun _ _ => rfl⟩, fun _ => advance.settled keyed⟩
    rcases Resource.due_writes due with ⟨body, rfl⟩ | ⟨body, rfl⟩ <;>
      exact Trace.writes_look r _ _
  | @unreported _ _ request _ _ _ _ looked due sent delivered other =>
    have advance := falters.advance looked due sent
    rw [falters.reported delivered]
    refine ⟨some request, advance, ⟨?_, rfl, ?_⟩, nofun⟩
    · rcases Resource.due_writes due with ⟨body, rfl⟩ | ⟨body, rfl⟩ <;>
        exact Trace.writes_look r _ _
    · intro kind created
      simp [Trace.counters, Recorder.entry, List.count_cons]

/-- A walk keeps a store keyed and leaves alone what is under other keys. -/
theorem Walk.frame (falters : env.Falters store) {rs : List Resource}
    (walk : Walk env recorder rs w ending t w') (keyed : (store w).Keyed) :
    (store w').Keyed ∧ ∀ key, (∀ r ∈ rs, ¬ r.At key) →
      (store w').find? key = (store w).find? key := by
  induction walk with
  | nil w => exact ⟨keyed, fun _ _ => rfl⟩
  | step first others ih =>
    obtain ⟨wrote, advance, _⟩ := first.advance falters keyed
    obtain ⟨keyed', kept⟩ := ih (advance.keyed keyed)
    refine ⟨keyed', fun key elsewhere => ?_⟩
    have parts := List.forall_mem_cons.mp elsewhere
    rw [kept key parts.2, advance.find?_of_not_at keyed parts.1]
  | stop first =>
    obtain ⟨wrote, advance, _⟩ := first.advance falters keyed
    refine ⟨advance.keyed keyed, fun key elsewhere => ?_⟩
    exact advance.find?_of_not_at keyed (List.forall_mem_cons.mp elsewhere).1

/-- What is pending for an object of another kind stays so. -/
theorem Walk.pending_of_kind (falters : env.Falters store) {rs : List Resource}
    (walk : Walk env recorder rs w ending t w') (keyed : (store w).Keyed)
    (other : r.kind ∉ rs.map Resource.kind) (owner : Owner) :
    r.pending owner (store w') = r.pending owner (store w) := by
  apply Resource.pending_congr
  intro key given
  apply (walk.frame falters keyed).2
  intro r' member here
  have same := ManagedKind.kind_injective ((Resource.kind_key given).symm.trans here.kind)
  exact other (List.mem_map.mpr ⟨r', member, same.symm⟩)

/-- After a walk that ends well nothing is pending. -/
theorem Walk.settled (falters : env.Falters store) {rs : List Resource}
    (distinct : (rs.map Resource.kind).Nodup) (walk : Walk env recorder rs w ending t w')
    (keyed : (store w).Keyed) (done : ending = .done ()) :
    ∀ r ∈ rs, r.pending recorder.owner (store w') = .ok none := by
  induction walk with
  | nil w => exact List.forall_mem_nil _
  | step first others ih =>
    obtain ⟨wrote, advance, _, settled⟩ := first.advance falters keyed
    obtain ⟨fresh, distinct⟩ := List.nodup_cons.mp distinct
    have keyed' := advance.keyed keyed
    refine List.forall_mem_cons.mpr ⟨?_, ih distinct keyed' done⟩
    rw [others.pending_of_kind falters keyed' fresh]
    exact settled rfl
  | stop first => cases done

/-- Where the store answers and nothing is pending, a visit is one look. -/
theorem Visit.idle (serves : env.Serves store) (kept : r.pending recorder.owner (store w) = .ok none)
    (visit : Visit env recorder r w ending t w') : ending = .done () ∧ store w' = store w ∧
      t = [.call r.look ((store w).get r.kind.kind r.name r.space)] := by
  cases visit with
  | kept looked due =>
    obtain ⟨same, rfl⟩ := serves.looked looked
    exact ⟨rfl, same, rfl⟩
  | unseen looked due | unwritten looked due | written looked due | unreported looked due =>
    obtain ⟨_, rfl⟩ := serves.looked looked
    cases kept.symm.trans due

/-- Where the store answers and nothing is pending, a walk is one look at each object. -/
theorem Walk.idle (serves : env.Serves store) {rs : List Resource}
    (walk : Walk env recorder rs w ending t w')
    (kept : ∀ r ∈ rs, r.pending recorder.owner (store w) = .ok none) :
    ending = .done () ∧ store w' = store w ∧
      t = rs.map fun r => .call r.look ((store w).get r.kind.kind r.name r.space) := by
  induction walk with
  | nil w => exact ⟨rfl, rfl, rfl⟩
  | step first others ih =>
    have parts := List.forall_mem_cons.mp kept
    obtain ⟨_, same, rfl⟩ := first.idle serves parts.1
    rw [same] at ih
    obtain ⟨ended, same', rfl⟩ := ih parts.2
    exact ⟨ended, same', rfl⟩
  | stop first =>
    obtain ⟨ended, _⟩ := first.idle serves (List.forall_mem_cons.mp kept).1
    cases ended

/-- Where the store answers and reports do not fail, a visit to an object with a key ends well. -/
theorem Visit.ends (serves : env.Serves store) (quiet : env.Quiet) (keyed : (store w).Keyed)
    {key : StoreKey} (given : r.key = .ok key) (visit : Visit env recorder r w ending t w') :
    ending = .done () := by
  have standing := Resource.pending_cases keyed recorder.owner given
  cases visit with
  | kept | written => rfl
  | unseen looked due =>
    obtain ⟨_, rfl⟩ := serves.looked looked
    rcases standing with ⟨_, _, _, _, pending⟩ | ⟨_, _, _, _, _, pending, _⟩ <;>
      cases pending.symm.trans due
  | @unwritten reply w₁ request f w₂ looked due sent =>
    obtain ⟨same, rfl⟩ := serves.looked looked
    have refused := serves.reply request w₁
    rw [sent, same] at refused
    rcases standing with ⟨_, _, _, _, pending⟩ | ⟨request', _, _, _, _, pending, written⟩
    · cases pending.symm.trans due
    · obtain rfl : request' = request := by
        simpa using pending.symm.trans due
      cases written.symm.trans refused
  | unreported looked due sent delivered other =>
    have api := quiet _ _ _ _ (congrArg Prod.fst delivered)
    rw [api] at other
    cases other

theorem Walk.ends (serves : env.Serves store) (quiet : env.Quiet) {rs : List Resource}
    (walk : Walk env recorder rs w ending t w') (keyed : (store w).Keyed)
    (keys : ∀ r ∈ rs, ∃ key, r.key = .ok key) : ending = .done () := by
  induction walk with
  | nil w => rfl
  | step first others ih =>
    obtain ⟨wrote, advance, _⟩ := first.advance serves.falters keyed
    exact ih (advance.keyed keyed) (List.forall_mem_cons.mp keys).2
  | stop first =>
    obtain ⟨key, given⟩ := (List.forall_mem_cons.mp keys).1
    exact first.ends serves quiet keyed given

end Pass

namespace Settings

theorem distinct_kinds (s : Settings) : (s.resources.map Resource.kind).Nodup := by
  have kinds : s.resources.map Resource.kind = ManagedKind.all := rfl
  rw [kinds]
  decide

/-- The managed objects have keys when namespace and names are values without parts. -/
theorem exists_key {s : Settings} (space : StoreKey.checkPart (s.space.orElse .null) = .ok ())
    (names : ∀ kind, StoreKey.checkPart (Resource.name ⟨kind, s⟩) = .ok ()) :
    ∀ r ∈ s.resources, ∃ key, r.key = .ok key := by
  intro r member
  obtain ⟨kind, _, rfl⟩ := List.mem_map.mp member
  have name := names kind
  refine ⟨⟨kind.kind, s.space.orElse .null, Resource.name ⟨kind, s⟩⟩, ?_⟩
  simp only [Resource.key, StoreKey.of, Resource.space, space, name, bind, Except.bind, pure,
    Except.pure]

end Settings

namespace Store

/-- The environment of a store that takes every event, and in which some requests, by their
    numbers, fail before they take effect. -/
def environment (fails : Nat → Option Failure) : Environment (Nat × Store) where
  reply request w := match fails w.1 with
    | some f => (.error f, w.1 + 1, w.2)
    | none => ((w.2.reply request).1, w.1 + 1, (w.2.reply request).2)
  deliver _ _ w := (.ok (), w)
  now w := (.finite 0, w)
  wait _ w := (.ok true, w)
  stopped _ := true
  draw w := (.null, w)
  rounds := 0

theorem environment_falters (fails : Nat → Option Failure) :
    (environment fails).Falters Prod.snd := by
  refine ⟨fun request w => ?_, fun _ _ _ => rfl⟩
  cases failed : fails w.1 with
  | some f => exact .inr ⟨f, by simp only [environment, failed], by simp only [environment, failed]⟩
  | none => exact .inl (by simp only [environment, failed])

theorem environment_serves : (environment fun _ => none).Serves Prod.snd :=
  ⟨fun _ _ => rfl, fun _ _ _ => rfl⟩

theorem environment_quiet (fails : Nat → Option Failure) : (environment fails).Quiet := nofun

/-- A store with a role from which the rules were taken. -/
def tampered : Store where
  entries := [(⟨.role, "kubevirt", "hco-operator-metrics"⟩, .obj [
    ("metadata", .obj [("name", "hco-operator-metrics"), ("namespace", "kubevirt")]),
    ("rules", .null)])]

theorem tampered_keyed : tampered.Keyed := by
  intro e member
  obtain rfl := List.mem_singleton.mp member
  exact ⟨_, rfl, StoreKey.same_refl _⟩

end Store

end MonitoringUpkeep
