import Mathlib.Data.List.Forall2
import MonitoringUpkeep.Operator
import MonitoringUpkeep.Proofs.Visit

/-!
# Guarded writes and fail-stop passes

Whatever the store answers, the effects of a pass are blocks, one for each managed object in order. A
block is a look, followed by a write only if the reply calls for it, and by a count and an event only
if the write was done. The first step that fails ends the pass with its failure, which is counted for
the kind of that object, and no later object is touched.
-/

namespace MonitoringUpkeep

/-- No look at an object is answered with null: what is there is an object. -/
def Environment.GivesNoNull {ω : Type} (env : Environment ω) : Prop :=
  ∀ kind name space w, (env.reply (.get kind name space) w).1 ≠ .ok .null

namespace Pass

variable {ω : Type}

/-- The effects of a visit that ends well. -/
inductive Completes (recorder : Recorder) (r : Resource) : Trace → Prop
  | inSync {observed} (same : r.differs observed (r.desired recorder.owner) = .ok false) :
      Completes recorder r [.call (.get r.kind.kind r.name r.space) (.ok observed)]
  | created {f v} (missing : f.isNotFound) :
      Completes recorder r [
        .call (.get r.kind.kind r.name r.space) (.error f),
        .call (.create r.kind.kind (r.desired recorder.owner)) (.ok v),
        .count (.writes r.kind true),
        recorder.entry (Event.created r.kind.kind.name r.name)]
  | updated {observed body v} (drifted : r.differs observed (r.desired recorder.owner) = .ok true)
      (healed : r.heal observed (r.desired recorder.owner) = .ok body) :
      Completes recorder r [
        .call (.get r.kind.kind r.name r.space) (.ok observed),
        .call (.update r.kind.kind body) (.ok v),
        .count (.writes r.kind false),
        recorder.entry (Event.updated r.kind.kind.name r.name)]

/-- The effects of a visit up to the step that fails. -/
inductive Breaks (recorder : Recorder) (r : Resource) (f : Failure) : Trace → Prop
  | get (other : f.isNotFound = false) :
      Breaks recorder r f [.call (.get r.kind.kind r.name r.space) (.error f)]
  | compare {observed} (fails : r.differs observed (r.desired recorder.owner) = .error f) :
      Breaks recorder r f [.call (.get r.kind.kind r.name r.space) (.ok observed)]
  | heal {observed} (drifted : r.differs observed (r.desired recorder.owner) = .ok true)
      (fails : r.heal observed (r.desired recorder.owner) = .error f) :
      Breaks recorder r f [.call (.get r.kind.kind r.name r.space) (.ok observed)]
  | create {g} (missing : g.isNotFound) :
      Breaks recorder r f [
        .call (.get r.kind.kind r.name r.space) (.error g),
        .call (.create r.kind.kind (r.desired recorder.owner)) (.error f)]
  | update {observed body} (drifted : r.differs observed (r.desired recorder.owner) = .ok true)
      (healed : r.heal observed (r.desired recorder.owner) = .ok body) :
      Breaks recorder r f [
        .call (.get r.kind.kind r.name r.space) (.ok observed),
        .call (.update r.kind.kind body) (.error f)]

/-- A pass that ends well: all blocks complete. -/
structure Finishes (env : Environment ω) (recorder : Recorder) (rs : List Resource) (w : ω)
    (blocks : List Trace) : Prop where
  completed : List.Forall₂ (Completes recorder) rs blocks
  ending : (run env recorder rs w).ending = .done ()
  effects : (run env recorder rs w).trace.effects = blocks.flatten

/-- A pass that fails at one of its objects: the failure is counted for the kind of that object and
    is the failure of the pass, no later object is touched, and a pass of the operator goes no
    further either. -/
structure Stops (env : Environment ω) (recorder : Recorder) (rs : List Resource) (w : ω)
    (before : List Resource) (r : Resource) (after : List Resource) (blocks : List Trace)
    (block : Trace) (f : Failure) : Prop where
  objects : rs = before ++ r :: after
  completed : List.Forall₂ (Completes recorder) before blocks
  broken : Breaks recorder r f block
  ending : (run env recorder rs w).ending = .failed f
  effects : (run env recorder rs w).trace.effects =
    blocks.flatten ++ block ++ [.count (.errors r.kind)]
  operator : ∀ o : Operator, o.recorder = recorder → o.resources = rs →
    Operator.pass env o w =
      ⟨.failed f, (run env recorder rs w).trace, (run env recorder rs w).world⟩

variable {env : Environment ω} {recorder : Recorder} {r : Resource} {w w' : ω} {t : Trace}

theorem Visit.asks (present : env.GivesNoNull) (recorder : Recorder) {reply : Reply} {w₁ : ω}
    (looked : env.reply r.look w = (reply, w₁)) :
    r.Asks recorder.owner reply (r.due recorder.owner reply) := by
  apply r.due_asks
  intro null
  apply present r.kind.kind r.name r.space w
  rw [← null, ← Resource.look, looked]

theorem Visit.completes (present : env.GivesNoNull)
    (visit : Visit env recorder r w (.done ()) t w') : Completes recorder r t := by
  cases visit with
  | kept looked due =>
    have asks := Visit.asks present recorder looked
    rw [due] at asks
    cases asks with
    | inSync same => exact .inSync same
  | written looked due sent delivered accepted =>
    have asks := Visit.asks present recorder looked
    rw [due] at asks
    cases asks with
    | missing absent => exact .created absent
    | drifted drifted healed => exact .updated drifted healed

theorem Visit.breaks (quiet : env.Quiet) (present : env.GivesNoNull) {f : Failure}
    (visit : Visit env recorder r w (.failed f) t w') : ∃ block,
      Breaks recorder r f block ∧ t = block ++ [.count (.errors r.kind)] := by
  cases visit with
  | unseen looked due =>
    have asks := Visit.asks present recorder looked
    rw [due] at asks
    cases asks with
    | unread other => exact ⟨_, .get other, rfl⟩
    | uncompared fails => exact ⟨_, .compare fails, rfl⟩
    | unhealed drifted fails => exact ⟨_, .heal drifted fails, rfl⟩
  | unwritten looked due sent =>
    have asks := Visit.asks present recorder looked
    rw [due] at asks
    cases asks with
    | missing absent => exact ⟨_, .create absent, rfl⟩
    | drifted drifted healed => exact ⟨_, .update drifted healed, rfl⟩
  | unreported looked due sent delivered other =>
    have api := quiet _ _ _ f (by rw [delivered])
    rw [api] at other
    cases other

/-- A walk is blocks that complete, up to the end of the list or to one that breaks. -/
theorem Walk.blocks (quiet : env.Quiet) (present : env.GivesNoNull) {rs : List Resource}
    {ending : Ending Unit} (walk : Walk env recorder rs w ending t w') :
    (∃ blocks, List.Forall₂ (Completes recorder) rs blocks ∧ ending = .done () ∧
        t = blocks.flatten) ∨
      ∃ before r after blocks block f, rs = before ++ r :: after ∧
        List.Forall₂ (Completes recorder) before blocks ∧ Breaks recorder r f block ∧
        ending = .failed f ∧ t = blocks.flatten ++ block ++ [.count (.errors r.kind)] := by
  induction walk with
  | nil w => exact .inl ⟨[], .nil, rfl, rfl⟩
  | step first others ih =>
    have completes := first.completes present
    rcases ih with ⟨blocks, all, rfl, rfl⟩ |
      ⟨before, r', after, blocks, block, f, rfl, all, breaks, rfl, rfl⟩
    · exact .inl ⟨_ :: blocks, .cons completes all, rfl, rfl⟩
    · refine .inr ⟨_ :: before, r', after, _ :: blocks, block, f, rfl, .cons completes all,
        breaks, rfl, ?_⟩
      simp only [List.flatten_cons, List.append_assoc]
  | stop first =>
    obtain ⟨block, breaks, rfl⟩ := first.breaks quiet present
    exact .inr ⟨[], _, _, [], block, _, rfl, .nil, breaks, rfl, rfl⟩

/-- With any store, a pass goes through blocks that complete, one for each object in order, up to the
    end or to the first object with a step that fails. -/
theorem run_blocks (quiet : env.Quiet) (present : env.GivesNoNull) (recorder : Recorder)
    (rs : List Resource) (w : ω) :
    (∃ blocks, Finishes env recorder rs w blocks) ∨
      ∃ before r after blocks block f, Stops env recorder rs w before r after blocks block f := by
  rcases (run_walk env recorder rs w).blocks quiet present with
    ⟨blocks, all, ending, effects⟩ |
    ⟨before, r, after, blocks, block, f, objects, all, breaks, failed, effects⟩
  · exact .inl ⟨blocks, all, ending, effects⟩
  · refine .inr ⟨before, r, after, blocks, block, f, objects, all, breaks, failed, effects, ?_⟩
    rintro o rfl rfl
    rcases ran : run env o.recorder o.resources w with ⟨ending, t, w'⟩
    rw [ran] at failed
    obtain rfl : ending = .failed f := failed
    exact Action.bind_failed ran _

/-- The last thing that a stopped pass counts is the error at the object it stops at. -/
theorem Stops.last_counter {rs before after : List Resource} {blocks : List Trace} {block : Trace}
    {f : Failure} (stops : Stops env recorder rs w before r after blocks block f) :
    (run env recorder rs w).trace.counters.getLast? = some (.errors r.kind) := by
  rw [← Trace.counters_effects, stops.effects, Trace.counters_append]
  exact List.getLast?_concat

/-- An environment in which the first object looked for is missing, all others are there without any
    content, and no object can be changed. -/
def rigid : Environment Nat where
  reply
    | .get .., 0 => (.error .notFound, 1)
    | .update .., n => (.error .alreadyExists, n + 1)
    | _, n => (.ok (.obj []), n + 1)
  deliver _ _ n := (.ok (), n)
  now n := (.finite 0, n)
  wait _ n := (.ok true, n)
  stopped _ := true
  draw n := (.null, n)
  rounds := 0

/-- The missing object is created; the next one is there without any content, and the pass stops at
    its repair. -/
theorem run_blocks_rigid :
    let settings : Settings := { space := "kubevirt" }
    let recorder : Recorder := { owner := { name := "hco-operator", space := "kubevirt", uid := "1" } }
    let pass := run rigid recorder settings.resources 0
    rigid.Quiet ∧ rigid.GivesNoNull ∧
      (∃ blocks block, Stops rigid recorder settings.resources 0 [⟨.prometheusRule, settings⟩]
        ⟨.role, settings⟩
        [⟨.roleBinding, settings⟩, ⟨.service, settings⟩, ⟨.serviceMonitor, settings⟩]
        blocks block .alreadyExists) ∧
      pass.trace.requests.map (fun request => (request.verb, request.kind)) =
        [("get", .prometheusRule), ("create", .prometheusRule), ("get", .role), ("update", .role)] ∧
      pass.trace.events =
        [Event.created "PrometheusRule" "kubevirt-hyperconverged-prometheus-rule"] ∧
      pass.trace.counters = [.writes .prometheusRule true, .errors .role] := by
  intro settings recorder pass
  have quiet : rigid.Quiet := nofun
  have present : rigid.GivesNoNull := by
    intro kind name space n
    cases n <;> nofun
  have ended : pass.ending = .failed .alreadyExists := rfl
  have counters : pass.trace.counters = [.writes .prometheusRule true, .errors .role] := rfl
  refine ⟨quiet, present, ?_, rfl, rfl, counters⟩
  rcases run_blocks quiet present recorder settings.resources 0 with
    ⟨blocks, finishes⟩ | ⟨before, r, after, blocks, block, f, stops⟩
  · cases ended.symm.trans finishes.ending
  · obtain rfl : Failure.alreadyExists = f := by injection ended.symm.trans stops.ending
    have last : pass.trace.counters.getLast? = some (.errors r.kind) := stops.last_counter
    rw [counters] at last
    have atRole : ManagedKind.role = r.kind := Counter.errors.inj (Option.some.inj last)
    have apart {rs : List Resource} (others : .role ∉ rs.map Resource.kind) : r ∉ rs := by
      intro member
      apply others
      rw [atRole]
      exact List.mem_map_of_mem member
    have objects : [⟨.prometheusRule, settings⟩] ++ ⟨.role, settings⟩ :: [⟨.roleBinding, settings⟩,
        ⟨.service, settings⟩, ⟨.serviceMonitor, settings⟩] = before ++ r :: after := stops.objects
    obtain ⟨rfl, rfl, rfl⟩ := (List.append_cons_inj_of_notMem (apart (by decide))
      (apart (by decide))).mp objects
    exact ⟨blocks, block, stops⟩

end Pass

end MonitoringUpkeep
