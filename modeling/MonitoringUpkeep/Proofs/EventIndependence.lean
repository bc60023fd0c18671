import Mathlib.Data.List.Forall2
import MonitoringUpkeep.Proofs.Survey
import MonitoringUpkeep.Proofs.Serving

/-!
# Independence of events

What the cluster makes of an event has no influence on the work. Two environments run on one cluster
when requests are answered there in the same way and events leave no trace in it. Actions are in step
when, from worlds with the same state of the cluster, they end in the same way, do the same but for log
records, and leave the same state. The parts of a pass are in step as long as no report fails for good,
and so are chains of them, whole passes, and any number of passes.
-/

namespace MonitoringUpkeep

/-- An environment runs on a cluster with a state of its own: the cluster answers the requests, and
    events do not change it. -/
structure Environment.RunsOn {ω σ : Type} (env : Environment ω) (cluster : Request → σ → Reply × σ)
    (state : ω → σ) : Prop where
  reply : ∀ request w,
    cluster request (state w) = ((env.reply request w).1, state (env.reply request w).2)
  deliver : ∀ space body w, state (env.deliver space body w).2 = state w

/-- Two outcomes of one piece of work: the same end, the same requests with the same bodies and
    replies, the same counts and the same events with the same bodies, all in the same order, and the
    same state of the cluster. Only log records may differ. -/
structure Outcome.SameWork {ω ω' σ α : Type} (state : ω → σ) (state' : ω' → σ) (x : Outcome ω α)
    (y : Outcome ω' α) : Prop where
  ending : x.ending = y.ending
  effects : x.trace.effects = y.trace.effects
  state : state x.world = state' y.world

namespace Action

variable {ω ω' σ α β : Type} {state : ω → σ} {state' : ω' → σ}

/-- Two actions are in step when they do the same work from worlds with the same state. -/
def InStep (state : ω → σ) (state' : ω' → σ) (x : Action ω α) (y : Action ω' α) : Prop :=
  ∀ w w', state w = state' w' → (x w).SameWork state state' (y w')

namespace InStep

theorem pure (a : α) : InStep state state' (Pure.pure a) (Pure.pure a) :=
  fun _ _ same => ⟨rfl, rfl, same⟩

theorem fail (f : Failure) :
    InStep state state' (Action.fail f : Action ω α) (Action.fail f : Action ω' α) :=
  fun _ _ same => ⟨rfl, rfl, same⟩

theorem ofExcept (x : Except Failure α) :
    InStep state state' (Action.ofExcept x) (Action.ofExcept x) := by
  cases x with
  | ok a => exact pure a
  | error f => exact fail f

theorem note (entry : Entry) : InStep state state' (Action.note entry) (Action.note entry) :=
  fun _ _ same => ⟨rfl, rfl, same⟩

theorem bind {x : Action ω α} {y : Action ω' α} {next : α → Action ω β} {next' : α → Action ω' β}
    (first : InStep state state' x y) (others : ∀ a, InStep state state' (next a) (next' a)) :
    InStep state state' (x >>= next) (y >>= next') := by
  intro w w' same
  obtain ⟨ending, effects, left⟩ := first w w' same
  rcases ran : x w with ⟨end₁, t, w₁⟩
  rcases ran' : y w' with ⟨end₂, t', w₁'⟩
  rw [ran, ran'] at ending effects left
  obtain rfl : end₁ = end₂ := ending
  cases end₁ with
  | done a =>
    obtain ⟨ending, later, left⟩ := others a w₁ w₁' left
    rw [bind_done ran, bind_done ran']
    refine ⟨ending, ?_, left⟩
    rw [Trace.effects_append, Trace.effects_append, effects, later]
  | failed f =>
    rw [bind_failed ran, bind_failed ran']
    exact ⟨rfl, effects, left⟩
  | unfinished =>
    rw [bind_unfinished ran, bind_unfinished ran']
    exact ⟨rfl, effects, left⟩

theorem attempt {x : Action ω α} {y : Action ω' α} (first : InStep state state' x y) :
    InStep state state' (Action.attempt x) (Action.attempt y) := by
  intro w w' same
  obtain ⟨ending, effects, left⟩ := first w w' same
  rcases ran : x w with ⟨end₁, t, w₁⟩
  rcases ran' : y w' with ⟨end₂, t', w₁'⟩
  rw [ran, ran'] at ending effects left
  obtain rfl : end₁ = end₂ := ending
  cases end₁ with
  | done a =>
    rw [attempt_done ran, attempt_done ran']
    exact ⟨rfl, effects, left⟩
  | failed f =>
    rw [attempt_failed ran, attempt_failed ran']
    exact ⟨rfl, effects, left⟩
  | unfinished =>
    rw [attempt_unfinished ran, attempt_unfinished ran']
    exact ⟨rfl, effects, left⟩

end InStep

end Action

section Passes
open MonitoringUpkeep.Action

variable {ω ω' σ : Type} {cluster : Request → σ → Reply × σ} {env : Environment ω}
  {env' : Environment ω'} {state : ω → σ} {state' : ω' → σ}

section Requests

variable (runs : env.RunsOn cluster state) (runs' : env'.RunsOn cluster state')
include runs runs'

theorem Environment.inStep_send (request : Request) :
    InStep state state' (env.send request) (env'.send request) := by
  intro w w' same
  have answers : ((env.reply request w).1, state (env.reply request w).2) =
      ((env'.reply request w').1, state' (env'.reply request w').2) := by
    rw [← runs.reply, ← runs'.reply, same]
  rcases sent : env.reply request w with ⟨reply, w₁⟩
  rcases sent' : env'.reply request w' with ⟨reply', w₁'⟩
  rw [sent, sent'] at answers
  obtain ⟨rfl, left⟩ := Prod.mk.inj answers
  cases reply with
  | ok v =>
    rw [send_done sent, send_done sent']
    exact ⟨rfl, rfl, left⟩
  | error f =>
    rw [send_failed sent, send_failed sent']
    exact ⟨rfl, rfl, left⟩

variable (quiet : env.Quiet) (quiet' : env'.Quiet)
include quiet quiet'

/-- A report is in step however the cluster answers it: a refusal leaves a log record and nothing
    else. -/
theorem Recorder.inStep_emit (recorder : Recorder) (e : Event) :
    InStep state state' (recorder.emit env e) (recorder.emit env' e) := by
  intro w w' same
  have kept := runs.deliver recorder.owner.space (recorder.body e) w
  have kept' := runs'.deliver recorder.owner.space (recorder.body e) w'
  have accepted := quiet recorder.owner.space (recorder.body e) w
  have accepted' := quiet' recorder.owner.space (recorder.body e) w'
  rcases sent : env.deliver recorder.owner.space (recorder.body e) w with ⟨answer, w₁⟩
  rcases sent' : env'.deliver recorder.owner.space (recorder.body e) w' with ⟨answer', w₁'⟩
  rw [sent] at kept accepted
  rw [sent'] at kept' accepted'
  obtain ⟨t, emitted, effects⟩ := Recorder.emit_accepted sent accepted
  obtain ⟨t', emitted', effects'⟩ := Recorder.emit_accepted sent' accepted'
  rw [emitted, emitted']
  refine ⟨rfl, effects.trans effects'.symm, ?_⟩
  exact kept.trans (same.trans kept'.symm)

namespace Pass

theorem inStep_create (recorder : Recorder) (r : Resource) :
    InStep state state' (create env recorder r) (create env' recorder r) :=
  .bind (Environment.inStep_send runs runs' _) fun _ => .bind (.note _) fun _ =>
    .bind (.note _) fun _ => Recorder.inStep_emit runs runs' quiet quiet' recorder _

theorem inStep_repair (recorder : Recorder) (r : Resource) (observed : Value) :
    InStep state state' (repair env recorder r observed) (repair env' recorder r observed) := by
  refine .bind (.ofExcept _) fun drifted => ?_
  cases drifted with
  | false => exact .note _
  | true =>
    exact .bind (.ofExcept _) fun _ => .bind (Environment.inStep_send runs runs' _) fun _ =>
      .bind (.note _) fun _ => .bind (.note _) fun _ =>
      Recorder.inStep_emit runs runs' quiet quiet' recorder _

theorem inStep_keep (recorder : Recorder) (r : Resource) :
    InStep state state' (keep env recorder r) (keep env' recorder r) := by
  refine .bind (.attempt (Environment.inStep_send runs runs' _)) fun looked => ?_
  cases looked with
  | ok observed =>
    cases observed with
    | null => exact inStep_create runs runs' quiet quiet' recorder r
    | _ => exact inStep_repair runs runs' quiet quiet' recorder r _
  | error f =>
    dsimp only
    split
    · exact inStep_create runs runs' quiet quiet' recorder r
    · exact .fail f

theorem inStep_keepCounted (recorder : Recorder) (r : Resource) :
    InStep state state' (keepCounted env recorder r) (keepCounted env' recorder r) := by
  refine .bind (.attempt (inStep_keep runs runs' quiet quiet' recorder r)) fun kept => ?_
  cases kept with
  | ok _ => exact .pure ()
  | error f => exact .bind (.note _) fun _ => .bind (.note _) fun _ => .fail f

theorem inStep_run (recorder : Recorder) (rs : List Resource) :
    InStep state state' (run env recorder rs) (run env' recorder rs) := by
  induction rs with
  | nil => exact .pure ()
  | cons r rest ih =>
    exact .bind (inStep_keepCounted runs runs' quiet quiet' recorder r) fun _ => ih

end Pass

end Requests

namespace Operator

section Survey

variable (runs : env.RunsOn cluster state) (runs' : env'.RunsOn cluster state')
include runs runs'

theorem inStep_cluster? (o : Operator) :
    InStep state state' (cluster? env o) (cluster? env' o) := by
  refine .bind (.attempt (Environment.inStep_send runs runs' _)) fun looked => ?_
  cases looked with
  | ok v => cases v <;> exact .pure _
  | error f =>
    dsimp only
    split
    · exact .pure none
    · exact .fail f

theorem inStep_project (o : Operator) (v : Value) :
    InStep state state' (project env o v) (project env' o v) := by
  refine .bind (.ofExcept _) fun request => ?_
  dsimp only
  split
  · have announced : InStep state state'
        (Projection.announce o.resources request.object : Action ω Unit)
        (Projection.announce o.resources request.object : Action ω' Unit) :=
      .bind (.ofExcept _) fun _ => .note _
    exact .bind announced fun _ => .bind (Environment.inStep_send runs runs' _) fun _ =>
      .bind (.note _) fun _ => .pure request
  · exact .pure request

end Survey

/-- How far a pass goes: over the managed objects, or on to the status of the cluster object. -/
inductive Extent where
  | objects
  | whole

/-- A pass of some extent. One over the managed objects alone has no result. -/
def make (env : Environment ω) (o : Operator) : Extent → Action ω (Option StatusRequest)
  | .objects => do
    Pass.run env o.recorder o.resources
    return none
  | .whole => pass env o

/-- The outcomes of passes, one after the other, whatever comes of each. -/
def series (env : Environment ω) (o : Operator) :
    List Extent → ω → List (Outcome ω (Option StatusRequest))
  | [], _ => []
  | extent :: later, w => make env o extent w :: series env o later (make env o extent w).world

section Series

variable (runs : env.RunsOn cluster state) (runs' : env'.RunsOn cluster state')
  (quiet : env.Quiet) (quiet' : env'.Quiet)
include runs runs' quiet quiet'

theorem inStep_make (o : Operator) (extent : Extent) :
    InStep state state' (make env o extent) (make env' o extent) := by
  have kept := Pass.inStep_run runs runs' quiet quiet' o.recorder o.resources
  cases extent with
  | objects => exact .bind kept fun _ => .pure none
  | whole =>
    refine .bind kept fun _ => .bind (inStep_cluster? runs runs' o) fun found => ?_
    cases found with
    | none => exact .bind (.note _) fun _ => .pure none
    | some v => exact .bind (inStep_project runs runs' o v) fun request => .pure (some request)

/-- Whatever the cluster makes of the events, as long as it takes each or refuses it by an answer of
    its own, passes do the same work as where it treats them in any other such way, for instance where
    it takes them all. -/
theorem series_ignores_events (o : Operator) (extents : List Extent) (w : ω) (w' : ω')
    (same : state w = state' w') : List.Forall₂ (Outcome.SameWork state state')
      (series env o extents w) (series env' o extents w') := by
  induction extents generalizing w w' with
  | nil => exact .nil
  | cons extent later ih =>
    have work := inStep_make runs runs' quiet quiet' o extent w w' same
    exact .cons work (ih _ _ work.state)

end Series

end Operator

end Passes

namespace Store

/-- The environment of a store in which some requests fail and every event is refused. -/
def mute (fails : Nat → Option Failure) : Environment (Nat × Store) :=
  { environment fails with
    deliver := fun _ _ w =>
      (.error (.api (.int 403) "Forbidden" .null "(403)\nReason: Forbidden\n"), w) }

theorem environment_runsOn (fails : Nat → Option Failure) :
    (environment fails).RunsOn (environment fails).reply id :=
  ⟨fun _ _ => rfl, fun _ _ _ => rfl⟩

theorem mute_runsOn (fails : Nat → Option Failure) :
    (mute fails).RunsOn (environment fails).reply id :=
  ⟨fun _ _ => rfl, fun _ _ _ => rfl⟩

theorem mute_quiet (fails : Nat → Option Failure) : (mute fails).Quiet := by
  intro space body w f refused
  cases refused
  rfl

end Store

namespace Operator

/-- Passes over a store whose first request fails, with every event refused or taken. -/
theorem series_ignores_events_mute :
    let fails : Nat → Option Failure := fun n => if n = 0 then some .notFound else none
    let quiet := Store.mute fails
    let taken := Store.environment fails
    quiet.RunsOn taken.reply id ∧ taken.RunsOn taken.reply id ∧ quiet.Quiet ∧ taken.Quiet ∧
      List.Forall₂ (Outcome.SameWork id id)
        (series quiet usual [.objects, .whole] (0, Store.tampered))
        (series taken usual [.objects, .whole] (0, Store.tampered)) := by
  intro fails quiet taken
  have runs : quiet.RunsOn taken.reply id := Store.mute_runsOn fails
  have runs' : taken.RunsOn taken.reply id := Store.environment_runsOn fails
  have refusing : quiet.Quiet := Store.mute_quiet fails
  have taking : taken.Quiet := Store.environment_quiet fails
  exact ⟨runs, runs', refusing, taking,
    series_ignores_events runs runs' refusing taking usual _ _ _ rfl⟩

end Operator

end MonitoringUpkeep
