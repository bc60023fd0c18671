import MonitoringUpkeep.Action.Environment
import MonitoringUpkeep.Recorder

/-!
# Effects of actions

What an action does to the world, log records left out. Chaining actions chains their effects, and a
report to the recorder has the event as its only effect, whether or not the cluster takes it.
-/

namespace MonitoringUpkeep

namespace Trace

/-- The entries of a trace that are no log records. -/
def effects (t : Trace) : Trace := t.filter fun
  | .log _ => false
  | _ => true

/-- The requests of a trace, each with its reply. -/
def calls (t : Trace) : List (Request × Reply) := t.filterMap fun
  | .call request reply => some (request, reply)
  | _ => none

@[simp] theorem effects_call (request : Request) (reply : Reply) (t : Trace) :
    effects (.call request reply :: t) = .call request reply :: effects t := rfl

@[simp] theorem effects_append (t u : Trace) : effects (t ++ u) = effects t ++ effects u :=
  List.filter_append ..

@[simp] theorem calls_append (t u : Trace) : calls (t ++ u) = calls t ++ calls u :=
  List.filterMap_append

@[simp] theorem requests_append (t u : Trace) : requests (t ++ u) = requests t ++ requests u :=
  List.filterMap_append

@[simp] theorem events_append (t u : Trace) : events (t ++ u) = events t ++ events u :=
  List.filterMap_append

@[simp] theorem waits_append (t u : Trace) : waits (t ++ u) = waits t ++ waits u :=
  List.filterMap_append

@[simp] theorem counters_append (t u : Trace) : counters (t ++ u) = counters t ++ counters u :=
  List.filterMap_append

/-- A projection that sees no log records sees the same in the effects. -/
theorem filterMap_effects {β : Type} {p : Entry → Option β} (record : ∀ r, p (.log r) = none)
    (t : Trace) : t.effects.filterMap p = t.filterMap p := by
  rw [effects, List.filterMap_filter]
  congr 1
  funext e
  cases e <;> simp [record]

@[simp] theorem calls_effects (t : Trace) : calls (effects t) = calls t :=
  filterMap_effects (fun _ => rfl) t

@[simp] theorem requests_effects (t : Trace) : requests (effects t) = requests t :=
  filterMap_effects (fun _ => rfl) t

@[simp] theorem events_effects (t : Trace) : events (effects t) = events t :=
  filterMap_effects (fun _ => rfl) t

@[simp] theorem waits_effects (t : Trace) : waits (effects t) = waits t :=
  filterMap_effects (fun _ => rfl) t

@[simp] theorem counters_effects (t : Trace) : counters (effects t) = counters t :=
  filterMap_effects (fun _ => rfl) t

end Trace

/-- Whether an action ended with a value. -/
def Ending.isDone {α : Type} : Ending α → Bool
  | .done _ => true
  | _ => false

namespace Action

variable {ω α β : Type} {x : Action ω α} {w w' : ω} {t : Trace}

theorem bind_done {a : α} (h : x w = ⟨.done a, t, w'⟩) (f : α → Action ω β) :
    (x >>= f) w = ⟨(f a w').ending, t ++ (f a w').trace, (f a w').world⟩ := by
  simp only [bind, Action.bind, h]

theorem bind_failed {e : Failure} (h : x w = ⟨.failed e, t, w'⟩) (f : α → Action ω β) :
    (x >>= f) w = ⟨.failed e, t, w'⟩ := by
  simp only [bind, Action.bind, h]

theorem bind_unfinished (h : x w = ⟨.unfinished, t, w'⟩) (f : α → Action ω β) :
    (x >>= f) w = ⟨.unfinished, t, w'⟩ := by
  simp only [bind, Action.bind, h]

theorem attempt_unfinished (h : x w = ⟨.unfinished, t, w'⟩) :
    attempt x w = ⟨.unfinished, t, w'⟩ := by
  simp only [attempt, h]

theorem attempt_done {a : α} (h : x w = ⟨.done a, t, w'⟩) :
    attempt x w = ⟨.done (.ok a), t, w'⟩ := by
  simp only [attempt, h]

theorem attempt_failed {e : Failure} (h : x w = ⟨.failed e, t, w'⟩) :
    attempt x w = ⟨.done (.error e), t, w'⟩ := by
  simp only [attempt, h]

/-- A chain of two actions without results goes on with the second where the first ends well, and
    else it ends as the first does. -/
theorem chain_cases (x : Action ω Unit) (next : Unit → Action ω Unit) (w : ω) :
    ((x w).ending = .done () ∧ ((x >>= next) w).ending = (next () (x w).world).ending ∧
        ((x >>= next) w).trace = (x w).trace ++ (next () (x w).world).trace) ∨
      ((x w).ending ≠ .done () ∧ ((x >>= next) w).ending = (x w).ending ∧
        ((x >>= next) w).trace = (x w).trace) := by
  rcases went : x w with ⟨ending, t, w'⟩
  cases ending with
  | done u =>
    rw [bind_done went]
    exact .inl ⟨rfl, rfl, rfl⟩
  | failed f =>
    rw [bind_failed went]
    exact .inr ⟨nofun, rfl, rfl⟩
  | unfinished =>
    rw [bind_unfinished went]
    exact .inr ⟨nofun, rfl, rfl⟩

/-- A chain of computations is a chain of actions without effects. -/
theorem ofExcept_bind (x : Except Failure α) (next : α → Except Failure β) :
    (ofExcept (x >>= next) : Action ω β) = ofExcept x >>= fun a => ofExcept (next a) := by
  cases x <;> rfl

@[simp] theorem pure_apply (a : α) (w : ω) : (pure a : Action ω α) w = ⟨.done a, [], w⟩ := rfl

@[simp] theorem fail_apply (e : Failure) (w : ω) :
    (fail e : Action ω α) w = ⟨.failed e, [], w⟩ := rfl

@[simp] theorem count_apply (c : Counter) (w : ω) :
    count c w = ⟨.done (), [.count c], w⟩ := rfl

@[simp] theorem log_apply (level : Int) (logger message : String) (failure : Option Failure)
    (w : ω) : log level logger message failure w =
      ⟨.done (), [.log ⟨level, logger, message, failure⟩], w⟩ := rfl

end Action

namespace Environment

variable {ω : Type} {env : Environment ω} {w w' : ω}

theorem send_done {request : Request} {v : Value} (h : env.reply request w = (.ok v, w')) :
    env.send request w = ⟨.done v, [.call request (.ok v)], w'⟩ := by
  simp only [send, h]

theorem send_failed {request : Request} {f : Failure} (h : env.reply request w = (.error f, w')) :
    env.send request w = ⟨.failed f, [.call request (.error f)], w'⟩ := by
  simp only [send, h]

/-- A request that is inspected ends with its reply. -/
theorem attempt_send {request : Request} {reply : Reply} (h : env.reply request w = (reply, w')) :
    Action.attempt (env.send request) w = ⟨.done reply, [.call request reply], w'⟩ := by
  cases reply with
  | ok v => exact Action.attempt_done (send_done h)
  | error f => exact Action.attempt_failed (send_failed h)

/-- A list is one request, and it fails if the reply is no array. -/
theorem list_call {kind : Kind} {space selector : Value} {reply : Reply} {w' : ω}
    (sent : env.reply (.list kind space selector) w = (reply, w')) :
    (∃ items, reply = .ok (.arr items) ∧ env.list kind space selector w =
        ⟨.done items, [.call (.list kind space selector) reply], w'⟩) ∨
      ((∀ items, reply ≠ .ok (.arr items)) ∧ ∃ f, env.list kind space selector w =
        ⟨.failed f, [.call (.list kind space selector) reply], w'⟩) := by
  cases reply with
  | error f =>
    refine .inr ⟨nofun, f, ?_⟩
    rw [list, Action.bind_failed (send_failed sent)]
  | ok v =>
    have got := send_done sent
    cases v with
    | arr items => exact .inl ⟨items, rfl, by rw [list, Action.bind_done got]; rfl⟩
    | _ => exact .inr ⟨nofun, _, by rw [list, Action.bind_done got]; rfl⟩

theorem sleep_done {seconds : Value} {set : Bool} (h : env.wait seconds w = (.ok set, w')) :
    env.sleep seconds w = ⟨.done set, [.wait seconds], w'⟩ := by
  simp only [sleep, h]

theorem sleep_failed {seconds : Value} {f : Failure} (h : env.wait seconds w = (.error f, w')) :
    env.sleep seconds w = ⟨.failed f, [.wait seconds], w'⟩ := by
  simp only [sleep, h]

theorem clock_done {now : Binary64} (h : env.now w = (now, w')) :
    env.clock w = ⟨.done now, [], w'⟩ := by
  simp only [clock, h]

theorem isStopped_done {set : Bool} (h : env.stopped w = set) :
    env.isStopped w = ⟨.done set, [], w⟩ := by
  simp only [isStopped, h]

/-- The cluster takes every event or refuses it by an answer of its own, so that no report makes the
    program fail. -/
def Quiet (env : Environment ω) : Prop :=
  ∀ space body w f, (env.deliver space body w).1 = .error f → f.isApi

end Environment

namespace Recorder

variable {ω : Type} {env : Environment ω} {w w' : ω}

/-- The entry that an event leaves in a trace. -/
def entry (recorder : Recorder) (e : Event) : Entry :=
  .event e recorder.owner.space (recorder.body e)

/-- A report ends well if the event is taken or refused by the API. -/
theorem emit_accepted {recorder : Recorder} {e : Event} {answer : Except Failure Unit}
    (delivered : env.deliver recorder.owner.space (recorder.body e) w = (answer, w'))
    (accepted : ∀ f, answer = .error f → f.isApi) : ∃ t,
      recorder.emit env e w = ⟨.done (), t, w'⟩ ∧ t.effects = [recorder.entry e] := by
  cases answer with
  | ok u =>
    have sent : Action.attempt (recorder.deliver env e) w =
        ⟨.done (.ok ()), [recorder.entry e], w'⟩ := by
      simp only [Action.attempt, deliver, delivered, entry]
    exact ⟨[recorder.entry e], by simp [emit, Action.bind_done sent], rfl⟩
  | error f =>
    have sent : Action.attempt (recorder.deliver env e) w =
        ⟨.done (.error f), [recorder.entry e], w'⟩ := by
      simp only [Action.attempt, deliver, delivered, entry]
    cases f with
    | api status reason body text =>
      refine ⟨[recorder.entry e, .log ⟨Level.warning, logger, recorder.refusal e reason, none⟩],
        ?_, rfl⟩
      simp only [emit, Action.bind_done sent, Action.log_apply, List.cons_append, List.nil_append]
    | _ => exact absurd (accepted _ rfl) (by simp [Failure.isApi])

/-- A report fails if the event fails in any other way. -/
theorem emit_failed {recorder : Recorder} {e : Event} {f : Failure}
    (delivered : env.deliver recorder.owner.space (recorder.body e) w = (.error f, w'))
    (other : f.isApi = false) :
    recorder.emit env e w = ⟨.failed f, [recorder.entry e], w'⟩ := by
  have sent : Action.attempt (recorder.deliver env e) w =
      ⟨.done (.error f), [recorder.entry e], w'⟩ := by
    simp only [Action.attempt, deliver, delivered, entry]
  cases f with
  | api status reason body text => simp [Failure.isApi] at other
  | _ => simp [emit, Action.bind_done sent]

end Recorder

end MonitoringUpkeep
