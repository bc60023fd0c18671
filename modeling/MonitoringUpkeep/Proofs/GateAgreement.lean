import MonitoringUpkeep.Proofs.GateStore
import MonitoringUpkeep.Proofs.StoreReads
import MonitoringUpkeep.Proofs.Survey

/-!
# Agreement of the written and the read gate

Over a store in which nobody else writes the cluster object, a change of the gate patches it at most once,
and afterwards the gate is read as it was written. If no patch went through, the cluster object is as it
was, and this is so whenever the change is rejected. So applying the gate a second time is one look.
-/

namespace MonitoringUpkeep

namespace Trace

/-- The changes that were done, by the calls of a trace. -/
theorem writes_eq (t : Trace) : t.writes = t.calls.filterMap fun c => match c.2 with
    | .ok _ => if c.1.changes then some c.1 else none
    | .error _ => none := by
  rw [writes, calls, List.filterMap_filterMap]
  congr 1
  funext e
  cases e with
  | call request reply => cases reply <;> rfl
  | _ => rfl

theorem writes_of_refused {t : Trace} (refused : ∀ c ∈ t.calls, ∃ f, c.2 = .error f) :
    t.writes = [] := by
  rw [writes_eq]
  refine List.filterMap_eq_nil_iff.mpr fun c member => ?_
  obtain ⟨f, failed⟩ := refused c member
  rw [failed]

theorem writes_of_read {request : Request} (quiet : request.changes = false) (reply : Reply) :
    writes [.call request reply] = [] := by
  cases reply with
  | ok v => simp [writes, quiet]
  | error f => rfl

end Trace

/-- An environment of a store in which others may write, but not under a key. Requests fail before they
    take effect where `fails` says so; all others are answered by the store. -/
structure Environment.Reserves {ω : Type} (env : Environment ω) (store : ω → Store) (key : StoreKey)
    (fails : Request → ω → Option Failure) : Prop where
  refused : ∀ {request w f}, fails request w = some f → (env.reply request w).1 = .error f ∧
    (store (env.reply request w).2).find? key = (store w).find? key
  /-- the store may have been changed elsewhere just before and just after the request -/
  answered : ∀ {request w}, fails request w = none → ∃ s : Store,
    s.find? key = (store w).find? key ∧ (env.reply request w).1 = (s.reply request).1 ∧
      (store (env.reply request w).2).find? key = (s.reply request).2.find? key
  now : ∀ w, (store (env.now w).2).find? key = (store w).find? key
  wait : ∀ seconds w, (store (env.wait seconds w).2).find? key = (store w).find? key

namespace Environment.Reserves

variable {ω : Type} {env : Environment ω} {store : ω → Store} {key : StoreKey}
  {fails : Request → ω → Option Failure}

theorem read (reserves : env.Reserves store key fails) {request : Request}
    (quiet : request.changes = false) (w : ω) :
    (store (env.reply request w).2).find? key = (store w).find? key := by
  cases failing : fails request w with
  | some f => exact (reserves.refused failing).2
  | none =>
    obtain ⟨s, same, -, after⟩ := reserves.answered failing
    rw [after, s.reply_read quiet, same]

end Environment.Reserves

namespace Gate
open MonitoringUpkeep.Action Value Fields

variable {ω : Type} (g : Gate) (enable : Value) {env : Environment ω} {store : ω → Store}
  {key : StoreKey} {fails : Request → ω → Option Failure}

/-! ## At most one patch -/

/-- What a change may leave, by its writes and its ending: nothing was written, and it did not end well,
    or the patch was written once, and a failure is of a given sort. -/
def Once (F : Failure → Prop) (x : Outcome ω Unit) : Prop :=
  x.trace.writes = [] ∧ x.ending ≠ .done () ∨
    x.trace.writes = [g.patchRequest enable] ∧ ∀ f, x.ending = .failed f → F f

/-- The wait for the patch. -/
def patchPoll : Poll :=
  ⟨.str s!"{Failure.gateName}={Text.lower enable.display} patch", g.patchTimeout, g.patchInterval⟩

/-- A patch that does not end well was not written. -/
theorem patch_unwritten (env : Environment ω) (w : ω) (undone : (g.patch env enable w).ending ≠ .done ()) :
    (g.patch env enable w).trace.writes = [] := by
  have recorded := chain_log (watch env .patch (g.patchPoll enable) (tryPatch env g enable))
    Level.info Poll.logger s!"Set the {Failure.gateName} feature gate to {enable.display}" w
  change (g.patch env enable w).ending = _ ∧ (g.patch env enable w).trace.calls = _ at recorded
  rw [recorded.1] at undone
  obtain ⟨looks, calls, unheld⟩ := watch_unheld env w .patch (g.patchPoll enable)
    (tryPatch env g enable) undone
  apply Trace.writes_of_refused
  rw [recorded.2, calls]
  intro c member
  obtain ⟨v, look, here⟩ := List.mem_flatMap.mp member
  obtain ⟨call, ends⟩ := tryPatch_call g enable env v
  rw [call] at here
  obtain rfl := List.mem_singleton.mp here
  cases replied : (env.reply (g.patchRequest enable) v).1 with
  | error f => exact ⟨f, rfl⟩
  | ok u =>
    rw [replied] at ends
    exact absurd ends (unheld v look)

/-- A patch that ends well was written once: all tries but the last were refused. -/
theorem patch_written (env : Environment ω) (w : ω) (done : (g.patch env enable w).ending = .done ()) :
    (g.patch env enable w).trace.writes = [g.patchRequest enable] := by
  obtain ⟨patches, calls, tries⟩ := patch_tries g enable env w
  obtain ⟨v, last⟩ := tries.through done
  obtain ⟨earlier, rfl⟩ := List.getLast?_eq_some_iff.mp last
  have transient := tries.transient
  rw [List.dropLast_concat] at transient
  rw [Trace.writes_eq, calls, List.map_append, List.filterMap_append]
  have before : (earlier.map (g.patchRequest enable, ·)).filterMap (fun c => match c.2 with
      | .ok _ => if c.1.changes then some c.1 else none
      | .error _ => none) = [] := by
    refine List.filterMap_eq_nil_iff.mpr fun c member => ?_
    obtain ⟨reply, tried, rfl⟩ := List.mem_map.mp member
    obtain ⟨f, rfl, -⟩ := transient reply tried
    rfl
  rw [before]
  rfl

theorem patch_once (env : Environment ω) (w : ω) : g.Once enable (fun _ => False) (g.patch env enable w) := by
  by_cases done : (g.patch env enable w).ending = .done ()
  · exact .inr ⟨g.patch_written enable env w done, by rw [done]; nofun⟩
  · exact .inl ⟨g.patch_unwritten enable env w done, done⟩

/-- An action that writes nothing before a change leaves what the change leaves. -/
theorem Once.after {F : Failure → Prop} {x : Outcome ω Unit} (once : g.Once enable F x)
    {t : Trace} (silent : t.writes = []) :
    g.Once enable F ⟨x.ending, t ++ x.trace, x.world⟩ := by
  have writes : (t ++ x.trace).writes = x.trace.writes := by
    rw [Trace.writes_append, silent, List.nil_append]
  exact once.imp (fun left => ⟨writes.trans left.1, left.2⟩) fun left => ⟨writes.trans left.1, left.2⟩

section Following

variable {F : Failure → Prop}
  (steps : env.Steps g.Watches (fun _ t _ => t.writes = []) F)
include steps

/-- What follows the patch writes nothing. -/
theorem changed_once (w : ω) :
    g.Once enable F ((g.patch env enable >>= fun _ => g.follow env enable) w) := by
  rcases g.patch_once enable env w with ⟨silent, undone⟩ | ⟨one, sound⟩
  · rcases chain_cases (g.patch env enable) (fun _ => g.follow env enable) w with
      ⟨done, -, -⟩ | ⟨-, ending, trace⟩
    · exact absurd done undone
    · exact .inl ⟨by rw [trace, silent], by rwa [ending]⟩
  · obtain ⟨silent, fails⟩ := g.keeps_follow steps (fun _ asked => asked) (g.patch env enable w).world
    rcases chain_cases (g.patch env enable) (fun _ => g.follow env enable) w with
      ⟨-, ending, trace⟩ | ⟨-, ending, trace⟩
    · refine .inr ⟨?_, ?_⟩
      · rw [trace, Trace.writes_append, one, silent, List.append_nil]
      · rw [ending]
        exact fails
    · refine .inr ⟨by rw [trace, one], fun f failed => ?_⟩
      rw [ending] at failed
      exact (sound f failed).elim

/-- A change of the gate writes it at most once, and it ends well only if it does. -/
theorem set_once (w : ω) : g.Once enable F (g.set env enable w) := by
  rw [set_eq]
  split
  · exact g.changed_once enable steps w
  · -- The list of the nodes comes first, and may be all there is.
    have silent : ∀ reply, Trace.writes [.call nodeList reply] = [] := Trace.writes_of_read rfl
    rcases sent : env.reply nodeList w with ⟨reply, w₁⟩
    rcases Environment.list_call sent with ⟨items, -, listed⟩ | ⟨-, f, failed⟩
    · have counted : isSingleWorker env w =
          ⟨.done (decide (items.length ≤ 1)), [.call nodeList reply], w₁⟩ := by
        rw [isSingleWorker, bind_done listed]
        rfl
      rw [bind_done counted]
      by_cases few : items.length ≤ 1
      · simp only [few, decide_true, if_true, fail_apply]
        exact .inl ⟨silent reply, by rintro ⟨⟩⟩
      · simp only [few, decide_false, Bool.false_eq_true, if_false]
        exact (g.changed_once enable steps w₁).after g enable (silent reply)
    · have counted : isSingleWorker env w = ⟨.failed f, [.call nodeList reply], w₁⟩ := by
        rw [isSingleWorker, bind_failed failed]
        rfl
      rw [bind_failed counted]
      exact .inl ⟨silent reply, by rintro ⟨⟩⟩

end Following

/-- The watch after the patch writes nothing, whatever its failures are. -/
theorem steps_silent {F : Failure → Prop}
    (refused : ∀ request, g.Watches request → ∀ w f, (env.reply request w).1 = .error f → F f)
    (broken : ∀ seconds w f, (env.wait seconds w).1 = .error f → F f) (own : ∀ f, f.OfWatch → F f) :
    env.Steps g.Watches (fun _ t _ => t.writes = []) F where
  rest _ := rfl
  chain first later := by rw [Trace.writes_append, first, later]; rfl
  call _ watches _ := Trace.writes_of_read watches.reads _
  clock _ := rfl
  wait _ _ := rfl
  log _ _ := rfl
  measured _ _ _ := rfl
  refused := refused
  broken := broken
  own := own

theorem set_writes (env : Environment ω) (w : ω) :
    g.Once enable (fun _ => True) (g.set env enable w) :=
  g.set_once enable (g.steps_silent (fun _ _ _ _ _ => trivial) (fun _ _ _ _ => trivial)
    fun _ _ => trivial) w

/-! ## What stands in the store -/

/-- What a run does to the cluster object: nothing, or the patch. -/
inductive Moves (store : ω → Store) (key : StoreKey) (w : ω) (t : Trace) (w' : ω) : Prop
  | still (silent : t.writes = []) (kept : (store w').find? key = (store w).find? key)
  | moved {fs} (wrote : t.writes ≠ []) (before : (store w).find? key = some (.obj fs))
      (after : (store w').find? key = some (.obj (writeAt fs path enable)))

theorem Moves.trans {w w' w'' : ω} {t u : Trace} (first : Moves enable store key w t w')
    (later : Moves enable store key w' u w'') : Moves enable store key w (t ++ u) w'' := by
  cases first with
  | still silent kept =>
    cases later with
    | still silent' kept' =>
      exact .still (by rw [Trace.writes_append, silent, silent']; rfl) (kept'.trans kept)
    | moved wrote before after =>
      refine .moved ?_ (kept.symm.trans before) after
      rwa [Trace.writes_append, silent, List.nil_append]
  | moved wrote before after =>
    have written : (t ++ u).writes ≠ [] := by
      rw [Trace.writes_append]
      exact List.append_ne_nil_of_left_ne_nil wrote _
    cases later with
    | still _ kept' => exact .moved written before (kept'.trans after)
    | moved _ before' after' =>
      cases after.symm.trans before'
      rw [writeAt_writeAt_self] at after'
      exact .moved written before after'

section Moving

variable (reserves : env.Reserves store key fails)
  (given : StoreKey.of .hyperConverged g.clusterName g.space = .ok key)
include reserves given

/-- A call of the patch writes the gate or leaves the cluster object alone. -/
theorem moves_patch (w : ω) : Moves enable store key w
    [.call (g.patchRequest enable) (env.reply (g.patchRequest enable) w).1]
    (env.reply (g.patchRequest enable) w).2 := by
  cases failing : fails (g.patchRequest enable) w with
  | some f =>
    obtain ⟨reply, kept⟩ := reserves.refused failing
    rw [reply]
    exact .still rfl kept
  | none =>
    obtain ⟨s, same, reply, after⟩ := reserves.answered failing
    have answered : s.reply (g.patchRequest enable) =
      s.patch .hyperConverged g.clusterName (operations enable) g.space := rfl
    rw [reply]
    rcases patch_cases s given enable with ⟨f, refused⟩ | ⟨fs, found, -, written⟩
    · rw [answered, refused] at after ⊢
      exact .still rfl (after.trans same)
    · rw [answered, written] at after ⊢
      refine .moved (List.cons_ne_nil _ _) (same.symm.trans found) ?_
      rw [after, Store.find?_write, if_pos (StoreKey.same_refl key)]

theorem steps_moves : env.Steps (g.Asks enable) (Moves enable store key) fun _ => True where
  rest _ := .still rfl rfl
  chain := Moves.trans enable
  call request asks w := by
    cases asks with
    | nodes => exact .still (Trace.writes_of_read rfl _) (reserves.read rfl w)
    | patch => exact g.moves_patch enable reserves given w
    | watch watches => exact .still (Trace.writes_of_read watches.reads _) (reserves.read watches.reads w)
  clock w := .still rfl (reserves.now w)
  wait seconds w := .still rfl (reserves.wait seconds w)
  log _ _ := .still rfl rfl
  measured _ _ _ := .still rfl rfl
  refused _ _ _ _ _ := trivial
  broken _ _ _ _ := trivial
  own _ _ := trivial

theorem set_moves (w : ω) :
    Moves enable store key w (g.set env enable w).trace (g.set env enable w).world :=
  (g.keeps_set (g.steps_moves enable reserves given) (fun _ => trivial) (fun _ asked => asked) w).1

end Moving

/-! ## The gate is read as it was written -/

section Reading

variable (reserves : env.Reserves store key fails)
  (given : StoreKey.of .hyperConverged g.clusterName g.space = .ok key)
include reserves given

/-- A look at the cluster object finds what stands under its key. -/
theorem look_found {w : ω} (free : fails g.clusterLook w = none) :
    (env.reply g.clusterLook w).1 = match (store w).find? key with
      | some v => .ok v
      | none => .error .notFound := by
  obtain ⟨s, same, reply, -⟩ := reserves.answered free
  rw [reply, ← same]
  exact s.get_of_key given

theorem isEnabled_written {fs : Fields} {enable : Bool} {w : ω}
    (stands : (store w).find? key = some (.obj (writeAt fs path (.bool enable))))
    (free : fails g.clusterLook w = none) : (g.isEnabled env w).ending = .done enable := by
  have found := g.look_found reserves given free
  rw [stands] at found
  have reads : reading (.obj (writeAt fs path (.bool enable))) = .ok enable := by
    rw [reading_written, isBlank, Bool.not_not]
  exact (g.isEnabled_done_iff env w enable).mpr ⟨_, found, reads⟩

/-- A gate that was read from the cluster object is read so again from the same object. -/
theorem isEnabled_again {enabled : Bool} {w u : ω}
    (read : (g.isEnabled env w).ending = .done enabled)
    (same : (store u).find? key = (store w).find? key) (free : fails g.clusterLook u = none) :
    (g.isEnabled env u).ending = .done enabled := by
  obtain ⟨v, looked, reads⟩ := (g.isEnabled_done_iff env w enabled).mp read
  have answered : fails g.clusterLook w = none := by
    cases failing : fails g.clusterLook w with
    | none => rfl
    | some f => cases (reserves.refused failing).1.symm.trans looked
  have found := g.look_found reserves given free
  rw [same, ← g.look_found reserves given answered, looked] at found
  exact (g.isEnabled_done_iff env u enabled).mpr ⟨v, found, reads⟩

end Reading

/-- What a change of the gate leaves. -/
structure Agrees (env : Environment ω) (store : ω → Store) (key : StoreKey)
    (fails : Request → ω → Option Failure) (enable : Bool) (w : ω) : Prop where
  /-- at most one patch took effect -/
  once : (g.set env (.bool enable) w).trace.writes = [] ∨
    (g.set env (.bool enable) w).trace.writes = [g.patchRequest (.bool enable)]
  untouched : (g.set env (.bool enable) w).trace.writes = [] →
    (store (g.set env (.bool enable) w).world).find? key = (store w).find? key
  /-- after a patch the gate reads as it was written, as long as the cluster object stays as it is -/
  reads : (g.set env (.bool enable) w).trace.writes ≠ [] → ∀ u,
    (store u).find? key = (store (g.set env (.bool enable) w).world).find? key →
    fails g.clusterLook u = none → (g.isEnabled env u).ending = .done enable
  /-- a rejection means that there was no patch, where failures from outside are no rejections -/
  rejected : (∀ request u f, fails request u = some f → ¬ f.Rejects) →
    (∀ seconds u f, (env.wait seconds u).1 = .error f → ¬ f.Rejects) →
    ∀ f, (g.set env (.bool enable) w).ending = .failed f → f.Rejects →
      (g.set env (.bool enable) w).trace.writes = []

theorem set_agrees (reserves : env.Reserves store key fails)
    (given : StoreKey.of .hyperConverged g.clusterName g.space = .ok key) (enable : Bool) (w : ω) :
    g.Agrees env store key fails enable w := by
  have moves := g.set_moves (.bool enable) reserves given w
  refine ⟨(g.set_writes (.bool enable) env w).imp And.left And.left, ?_, ?_, ?_⟩
  · intro none
    cases moves with
    | still _ kept => exact kept
    | moved wrote => exact absurd none wrote
  · intro some u same free
    cases moves with
    | still silent _ => exact absurd silent some
    | moved _ _ after => exact g.isEnabled_written reserves given (same.trans after) free
  · intro honest sound f failed rejects
    -- What is looked at after the patch is answered by the store or fails as `fails` says.
    have refused : ∀ request, g.Watches request → ∀ w f,
        (env.reply request w).1 = .error f → ¬ f.Rejects := by
      intro request watches w f replied
      cases failing : fails request w with
      | some f' =>
        cases (reserves.refused failing).1.symm.trans replied
        exact honest request w f failing
      | none =>
        obtain ⟨s, -, reply, -⟩ := reserves.answered failing
        exact s.not_rejects_read watches.reads f (reply.symm.trans replied)
    rcases g.set_once (.bool enable)
        (g.steps_silent refused sound fun _ => Failure.not_rejects_of_watch) w with
      ⟨none, -⟩ | ⟨-, other⟩
    · exact none
    · exact absurd rejects (other f failed)

end Gate

namespace Operator
open MonitoringUpkeep.Action

variable {ω : Type} {env : Environment ω} {store : ω → Store} {key : StoreKey}
  {fails : Request → ω → Option Failure} {o : Operator} {g : Gate} {enable : Bool}

/-- Applying the gate has nothing to do: it looks at the cluster object once, and ends well unless that
    look fails. -/
structure GateIdles (env : Environment ω) (fails : Request → ω → Option Failure) (o : Operator)
    (g : Gate) (w : ω) : Prop where
  requests : (applyGate env o w).trace.requests = [g.clusterLook]
  waits : (applyGate env o w).trace.waits = []
  ends : fails g.clusterLook w = none → (applyGate env o w).ending = .done ()

section Wanted

variable (gated : o.gate = some g) (wanted : o.configuration.tenantQuota = some enable)
include gated wanted

theorem applyGate_eq (env : Environment ω) : applyGate env o = g.isEnabled env >>= fun enabled =>
    if enabled = enable then Action.log Level.info logger
      s!"Managed tenant quota feature gate already {(Value.bool enable).display}"
    else g.set env (.bool enable) := by
  simp only [applyGate, gated, wanted]

theorem applyGate_idles (reserves : env.Reserves store key fails) {w : ω}
    (reads : fails g.clusterLook w = none → (g.isEnabled env w).ending = .done enable) :
    GateIdles env fails o g w := by
  cases failing : fails g.clusterLook w with
  | some f =>
    have look := g.isEnabled_look env w
    rw [(reserves.refused failing).1] at look
    have applied : applyGate env o w = _ :=
      (congrFun (applyGate_eq gated wanted env) w).trans (bind_failed look _)
    exact ⟨by rw [applied]; rfl, by rw [applied]; rfl, by rw [failing]; rintro ⟨⟩⟩
  | none =>
    obtain ⟨v, reply, read⟩ := (g.isEnabled_done_iff env w enable).mp (reads failing)
    have applied : applyGate env o w = _ :=
      (congrFun (applyGate_eq gated wanted env) w).trans (bind_done (g.isEnabled_found reply read) _)
    simp only [if_true] at applied
    exact ⟨by rw [applied]; rfl, by rw [applied]; rfl, fun _ => by rw [applied]; rfl⟩

/-- After the gate was applied it reads as wanted, as long as the cluster object stays as it is. -/
theorem isEnabled_applied (reserves : env.Reserves store key fails)
    (given : StoreKey.of .hyperConverged g.clusterName g.space = .ok key) {w u : ω}
    (done : (applyGate env o w).ending = .done ())
    (same : (store u).find? key = (store (applyGate env o w).world).find? key)
    (free : fails g.clusterLook u = none) : (g.isEnabled env u).ending = .done enable := by
  have quiet : g.clusterLook.changes = false := rfl
  have kept := reserves.read quiet w
  have look := g.isEnabled_look env w
  rw [applyGate_eq gated wanted] at done same
  rcases read : g.isEnabled env w with ⟨ending, t, w₁⟩
  obtain rfl : (env.reply g.clusterLook w).2 = w₁ := congrArg Outcome.world (look.symm.trans read)
  cases ending with
  | failed f =>
    rw [bind_failed read] at done
    cases done
  | unfinished =>
    rw [bind_unfinished read] at done
    cases done
  | done enabled =>
    rw [bind_done read] at done same
    by_cases already : enabled = enable
    · subst already
      simp only [if_true, log_apply] at same
      exact g.isEnabled_again reserves given (by rw [read]) (same.trans kept) free
    · simp only [already, if_false] at done same
      have agrees := g.set_agrees reserves given enable (env.reply g.clusterLook w).2
      refine agrees.reads (fun none => ?_) u same free
      rcases g.set_writes (.bool enable) env (env.reply g.clusterLook w).2 with ⟨-, undone⟩ | ⟨one, -⟩
      · exact undone done
      · cases none.symm.trans one

end Wanted

/-- Over a store in which nobody else writes the cluster object, however requests fail before they take
    effect and whatever others write elsewhere: a change of the gate leaves what `Gate.Agrees` says; after
    the gate was applied well, applying it again is one look; and an operator without a wish for the gate
    does not ask for anything. -/
theorem applyGate_agrees (reserves : env.Reserves store key fails) (gated : o.gate = some g)
    (given : StoreKey.of .hyperConverged g.clusterName g.space = .ok key) (enable : Bool) (w : ω) :
    g.Agrees env store key fails enable w ∧
    (o.configuration.tenantQuota = some enable → (applyGate env o w).ending = .done () →
      ∀ u, (store u).find? key = (store (applyGate env o w).world).find? key →
        GateIdles env fails o g u) ∧
    (o.configuration.tenantQuota = none → ∀ u, applyGate env o u = ⟨.done (), [], u⟩) := by
  refine ⟨g.set_agrees reserves given enable w, ?_, ?_⟩
  · intro wanted done u same
    exact applyGate_idles gated wanted reserves
      (isEnabled_applied gated wanted reserves given done same)
  · intro unwanted u
    simp only [applyGate, gated, unwanted]
    rfl

end Operator

namespace Store

/-- The environment of a store in which some requests fail, waits are over at once, and nobody stops the
    program. -/
def patient (fails : Nat → Option Failure) : Environment (Nat × Store) :=
  { environment fails with
    wait := fun _ w => (.ok false, w)
    stopped := fun _ => false
    rounds := 2 }

theorem patient_reserves (fails : Nat → Option Failure) (key : StoreKey) :
    (patient fails).Reserves Prod.snd key fun _ w => fails w.1 where
  refused failed := by simp only [patient, environment, failed, and_self]
  answered {_ w} free := ⟨w.2, rfl, by simp only [patient, environment, free],
    by simp only [patient, environment, free]⟩
  now _ := rfl
  wait _ _ := rfl

/-- A store with a cluster object in which the gate is enabled. -/
def opened : Store where
  entries := [(⟨.hyperConverged, "kubevirt-hyperconverged", "kubevirt-hyperconverged"⟩, .obj [
    ("metadata", .obj [
      ("name", "kubevirt-hyperconverged"), ("namespace", "kubevirt-hyperconverged")]),
    ("spec", .obj [("featureGates", .obj [("enableManagedTenantQuota", .bool true)])])])]

end Store

namespace Operator

/-- An operator with a common configuration that wants the gate disabled. -/
def closing : Operator :=
  { usual with
    configuration := { usual.configuration with tenantQuota := some false }
    gate := some (gateOf .finite usual.configuration) }

/-- The gate is disabled by a look, a patch and a look at the quota; the look after that fails. -/
theorem applyGate_agrees_closing :
    let fails : Nat → Option Failure := fun n => if n = 3 then some .notFound else none
    let env := Store.patient fails
    let gate := gateOf .finite usual.configuration
    let key : StoreKey := ⟨.hyperConverged, "kubevirt-hyperconverged", "kubevirt-hyperconverged"⟩
    env.Reserves Prod.snd key (fun _ w => fails w.1) ∧ closing.gate = some gate ∧
      StoreKey.of .hyperConverged gate.clusterName gate.space = .ok key ∧
      gate.Agrees env Prod.snd key (fun _ w => fails w.1) false (0, Store.opened) ∧
      (applyGate env closing (0, Store.opened)).ending = .done () ∧
      GateIdles env (fun _ w => fails w.1) closing gate
        (applyGate env closing (0, Store.opened)).world := by
  intro fails env gate key
  have reserves := Store.patient_reserves fails key
  obtain ⟨agrees, applied, -⟩ :=
    applyGate_agrees (o := closing) reserves rfl (g := gate) rfl false (0, Store.opened)
  have done : (applyGate env closing (0, Store.opened)).ending = .done () := rfl
  exact ⟨reserves, rfl, rfl, agrees, done, applied rfl done _ rfl⟩

end Operator

end MonitoringUpkeep
