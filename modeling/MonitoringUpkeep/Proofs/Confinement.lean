import MonitoringUpkeep.Proofs.GateKeeping

/-!
# What actions can do in any world

An action keeps within limits when, whatever the world answers, all entries of its trace are of a
given sort, its failure, if it fails, is of a given sort, and it goes on without an end only if that
is allowed. The limits of a chain of actions follow from those of its parts, so the limits of a pass
and of the watch over the gate are read off their texts. Computations without a trace fail only with
failures of the program's own making, never with an answer of the API.
-/

namespace MonitoringUpkeep

/-! ## Failures of the program's own making -/

/-- A computation whose failures, if any, are of the program's own making: they are no answers of
    the API. -/
def Internal {α : Type} (x : Except Failure α) : Prop := ∀ f, x = .error f → f.isApi = false

namespace Internal

variable {α β : Type}

theorem ok (a : α) : Internal (.ok a) := FailsOnly.ok a

theorem pure (a : α) : Internal (Pure.pure a : Except Failure α) := FailsOnly.pure a

theorem error {f : Failure} (other : f.isApi = false) :
    Internal (.error f : Except Failure α) := FailsOnly.error other

theorem bind {x : Except Failure α} {next : α → Except Failure β} (first : Internal x)
    (others : ∀ a, Internal (next a)) : Internal (x >>= next) := FailsOnly.bind first others

/-- What can go wrong in the watch over the gate is of the program's own making. -/
theorem of_watch {x : Except Failure α} (fails : FailsOnly Failure.OfWatch x) : Internal x := by
  intro f failed
  have own := fails f failed
  cases f with
  | misfit | overflow | waitTimeout | waitCancelled => rfl
  | _ => exact own.elim

theorem mapM {step : α → Except Failure β} (each : ∀ a, Internal (step a)) (items : List α) :
    Internal (items.mapM step) := by
  induction items with
  | nil => exact pure []
  | cons a rest ih =>
    rw [List.mapM_cons]
    exact bind (each a) fun b => bind ih fun bs => pure (b :: bs)

end Internal

namespace Value

theorem internal_member (v : Value) (key : String) : Internal (v.member key) :=
  .of_watch (v.failsOnly_member key)

theorem internal_part (v : Value) (key : String) : Internal (v.part key) := by
  cases v with
  | obj fs =>
    simp only [part]
    split
    · exact .ok _
    · exact .error rfl
  | _ => exact .error rfl

theorem internal_withPart (v : Value) (key : String) (w : Value) : Internal (v.withPart key w) := by
  cases v with
  | obj fs => exact .ok _
  | _ => exact .error rfl

theorem internal_items (v : Value) : Internal v.items := .of_watch v.failsOnly_items

theorem internal_metadata (v : Value) : Internal v.metadata :=
  .bind (internal_member v "metadata") fun _ => .pure _

theorem internal_asKey (v : Value) : Internal v.asKey := by
  cases v with
  | str s => exact .ok s
  | _ => exact .error rfl

theorem internal_asPair (n : Nat) (v : Value) : Internal (v.asPair n) := by
  unfold asPair
  split
  · exact .error rfl
  · exact .bind (internal_asKey _) fun _ => .pure _
  · exact .error rfl

theorem internal_ofPairs (n : Nat) (vs : List Value) (fs : Fields) :
    Internal (ofPairs n vs fs) := by
  induction vs generalizing n fs with
  | nil => exact .ok fs
  | cons v rest ih =>
    exact .bind (internal_asPair n v) fun p => ih (n + 1) (Fields.put fs p.1 p.2)

theorem internal_toFields (v : Value) : Internal v.toFields := by
  unfold toFields
  split
  · exact .ok _
  · exact .bind (internal_items v) fun vs => internal_ofPairs 0 vs []

end Value

namespace Resource
open Value

theorem internal_differs (r : Resource) (observed desired : Value) :
    Internal (r.differs observed desired) := by
  refine .bind (internal_metadata observed) fun found => .bind (internal_part desired _)
    fun wanted => .bind (internal_member found _) fun _ => .bind (internal_part wanted _) fun _ => ?_
  split
  · exact .pure true
  · refine .bind (internal_member found _) fun _ => .bind (internal_part wanted _) fun _ => ?_
    split
    · exact .pure true
    · exact .pure _

theorem internal_heal (r : Resource) (observed desired : Value) :
    Internal (r.heal observed desired) :=
  .bind (internal_toFields observed) fun _ => .bind (internal_part desired _) fun _ =>
    .bind (internal_part _ _) fun _ => .bind (internal_withPart _ _ _) fun _ =>
    .bind (internal_part desired _) fun _ => .bind (internal_part _ _) fun _ =>
    .bind (internal_withPart _ _ _) fun _ => .pure _

end Resource

namespace Projection
open Value

theorem internal_references (v : Value) : Internal (references v) :=
  .bind (internal_member v _) fun _ => .bind (internal_member _ _) fun _ => internal_items _

theorem internal_identifying (v : Value) : Internal (identifying v) := by
  cases v with
  | arr items => exact .error rfl
  | obj fs => exact .error rfl
  | _ => exact .ok _

theorem internal_identity (v : Value) : Internal (identity v) :=
  .bind (internal_member v _) fun _ => .bind (internal_member v _) fun _ =>
    .bind (internal_member v _) fun _ => .bind (internal_member v _) fun _ =>
    .bind (internal_identifying _) fun _ => .bind (internal_identifying _) fun _ =>
    .bind (internal_identifying _) fun _ => .bind (internal_identifying _) fun _ => .pure _

theorem internal_update? (rs : List Resource) (v : Value) : Internal (update? rs v) := by
  refine .bind (internal_references v) fun vs => .bind (.mapM internal_identity vs) fun found =>
    .bind (.mapM internal_identity _) fun wanted => ?_
  split
  · exact .pure none
  · exact .bind (.bind (internal_member v _) fun _ => internal_withPart v _ _) fun _ => .pure _

theorem internal_notice (v : Value) (n : Nat) : Internal (notice v n) := by
  refine .bind (internal_metadata v) fun metadata => ?_
  cases metadata with
  | obj fs => exact .bind (.ok _) fun _ => .pure _
  | _ => exact .bind (.error rfl) fun _ => .pure _

end Projection

theorem StatusRequest.internal_projected (rs : List Resource) (r : StatusRequest) :
    Internal (r.projected rs) := by
  refine .bind (Projection.internal_update? rs r.object) fun update => ?_
  cases update <;> exact .pure _

/-! ## Limits of actions -/

/-- What an action can do in any world: the entries it may leave in the trace, the failures it may
    end with, and whether it may be cut off before its end. -/
structure Limits where
  entry : Entry → Prop
  failure : Failure → Prop
  endless : Prop

/-- An ending within limits, with a value of a given sort. -/
def Ending.Meets {α : Type} (limits : Limits) (value : α → Prop) : Ending α → Prop
  | .done a => value a
  | .failed f => limits.failure f
  | .unfinished => limits.endless

namespace Action

variable {ω α β : Type}

/-- In every world the action keeps within the limits, and its value is of a given sort. -/
def Within (limits : Limits) (x : Action ω α) (value : α → Prop := fun _ => True) : Prop :=
  ∀ w, (∀ e ∈ (x w).trace, limits.entry e) ∧ (x w).ending.Meets limits value

namespace Within

variable {limits : Limits} {value : α → Prop} {result : β → Prop}

theorem pure {a : α} (good : value a) : Within limits (Pure.pure a : Action ω α) value :=
  fun _ => ⟨nofun, good⟩

theorem fail {f : Failure} (allowed : limits.failure f) :
    Within limits (Action.fail f : Action ω α) value := fun _ => ⟨nofun, allowed⟩

theorem note {entry : Entry} (allowed : limits.entry entry) :
    Within limits (Action.note entry : Action ω Unit) := by
  intro w
  refine ⟨fun e member => ?_, trivial⟩
  obtain rfl := List.mem_singleton.mp member
  exact allowed

theorem bind {x : Action ω α} {next : α → Action ω β} (first : Within limits x value)
    (others : ∀ a, value a → Within limits (next a) result) :
    Within limits (x >>= next) result := by
  intro w
  obtain ⟨entries, meets⟩ := first w
  rcases ran : x w with ⟨ending, t, w'⟩
  rw [ran] at entries meets
  cases ending with
  | done a =>
    rw [Action.bind_done ran]
    obtain ⟨later, ends⟩ := others a meets w'
    exact ⟨fun e member => (List.mem_append.mp member).elim (entries e) (later e), ends⟩
  | failed f =>
    rw [Action.bind_failed ran]
    exact ⟨entries, meets⟩
  | unfinished =>
    rw [Action.bind_unfinished ran]
    exact ⟨entries, meets⟩

/-- An attempt cannot fail; its value tells of the failure. -/
theorem attempt (failure : Failure → Prop) {x : Action ω α}
    (within : Within { limits with failure } x value) :
    Within limits (Action.attempt x) fun
      | .ok a => value a
      | .error f => failure f := by
  intro w
  obtain ⟨entries, meets⟩ := within w
  rcases ran : x w with ⟨ending, t, w'⟩
  rw [ran] at entries meets
  cases ending <;> simp only [Action.attempt, ran] <;> exact ⟨entries, meets⟩

/-- An action that is let go leaves its entries, and neither fails nor is cut off. -/
theorem detach {x : Action ω α} (entries : ∀ w, ∀ e ∈ (x w).trace, limits.entry e) :
    Within limits (Action.detach x) := fun w => ⟨entries w, trivial⟩

theorem ofExcept {x : Except Failure α} (done : ∀ a, x = .ok a → value a)
    (failed : ∀ f, x = .error f → limits.failure f) :
    Within limits (Action.ofExcept x : Action ω α) value := by
  cases x with
  | ok a => exact pure (done a rfl)
  | error f => exact fail (failed f rfl)

theorem log (level : Int) (logger message : String) (failure : Option Failure)
    (allowed : ∀ record, limits.entry (.log record)) :
    Within limits (Action.log level logger message failure : Action ω Unit) := note (allowed _)

end Within

end Action

namespace Environment
open MonitoringUpkeep.Action

variable {ω : Type} (env : Environment ω) {limits : Limits}

theorem within_send {request : Request} (called : ∀ reply, limits.entry (.call request reply))
    (failed : ∀ w f, (env.reply request w).1 = .error f → limits.failure f) :
    Within limits (env.send request) := by
  intro w
  rcases answered : env.reply request w with ⟨reply, w'⟩
  cases reply with
  | ok v =>
    rw [send_done answered]
    exact ⟨fun e member => by obtain rfl := List.mem_singleton.mp member; exact called _, trivial⟩
  | error f =>
    rw [send_failed answered]
    exact ⟨fun e member => by obtain rfl := List.mem_singleton.mp member; exact called _,
      failed w f (by rw [answered])⟩

end Environment

/-! ## Limits of a pass -/

/-- Entries that a pass leaves: requests, records, counts of its own work, and reports that nothing is
    wrong. -/
def Entry.OfPass : Entry → Prop
  | .call .. | .log _ => True
  | .event e _ _ => e.type = .str "Normal"
  | .count c => ∀ succeeded, c ≠ .passes succeeded
  | _ => False

/-- The limits of a pass whose failures are of a given sort. -/
def Limits.pass (failure : Failure → Prop) : Limits := ⟨Entry.OfPass, failure, False⟩

section Passes
open MonitoringUpkeep.Action

variable {ω : Type} {env : Environment ω} {failure : Failure → Prop}

theorem Recorder.within_emit (other : ∀ f, f.isApi = false → failure f) (recorder : Recorder)
    {e : Event} (normal : e.type = .str "Normal") :
    Within (.pass failure) (recorder.emit env e) := by
  intro w
  rcases delivered : env.deliver recorder.owner.space (recorder.body e) w with ⟨answer, w'⟩
  by_cases accepted : ∀ f, answer = .error f → f.isApi
  · obtain ⟨t, emitted, effects⟩ := Recorder.emit_accepted delivered accepted
    rw [emitted]
    refine ⟨fun entry member => ?_, trivial⟩
    by_cases record : entry ∈ t.effects
    · rw [effects] at record
      obtain rfl := List.mem_singleton.mp record
      exact normal
    · cases entry with
      | log r => trivial
      | _ => exact absurd (List.mem_filter.mpr ⟨member, rfl⟩) record
  · obtain ⟨f, rfl, unanswered⟩ : ∃ f, answer = .error f ∧ f.isApi = false := by
      simpa using accepted
    rw [Recorder.emit_failed delivered unanswered]
    refine ⟨fun entry member => ?_, other f unanswered⟩
    obtain rfl := List.mem_singleton.mp member
    exact normal

namespace Pass

variable (other : ∀ f, f.isApi = false → failure f)
  (replied : ∀ request w f, (env.reply request w).1 = .error f → failure f)
include other replied

theorem within_create (recorder : Recorder) (r : Resource) :
    Within (.pass failure) (create env recorder r) :=
  .bind (env.within_send (fun _ => trivial) (replied _)) fun _ _ => .bind (.note nofun) fun _ _ =>
    .bind (.log _ _ _ _ fun _ => trivial) fun _ _ => recorder.within_emit other rfl

theorem within_repair (recorder : Recorder) (r : Resource) (observed : Value) :
    Within (.pass failure) (repair env recorder r observed) := by
  have internal {α : Type} {x : Except Failure α} (h : Internal x) :
      Within (.pass failure) (Action.ofExcept x : Action ω α) :=
    .ofExcept (fun _ _ => trivial) fun f failed => other f (h f failed)
  refine .bind (internal (r.internal_differs _ _)) fun drifted _ => ?_
  cases drifted with
  | false => exact .log _ _ _ _ fun _ => trivial
  | true =>
    exact .bind (internal (r.internal_heal _ _)) fun _ _ =>
      .bind (env.within_send (fun _ => trivial) (replied _)) fun _ _ => .bind (.note nofun) fun _ _ =>
      .bind (.log _ _ _ _ fun _ => trivial) fun _ _ => recorder.within_emit other rfl

theorem within_keep (recorder : Recorder) (r : Resource) :
    Within (.pass failure) (keep env recorder r) := by
  refine .bind (.attempt failure
    (env.within_send (fun _ => trivial) (replied _))) fun looked known => ?_
  cases looked with
  | ok observed =>
    cases observed with
    | null => exact within_create other replied recorder r
    | _ => exact within_repair other replied recorder r _
  | error f =>
    dsimp only
    split
    · exact within_create other replied recorder r
    · exact .fail known

theorem within_keepCounted (recorder : Recorder) (r : Resource) :
    Within (.pass failure) (keepCounted env recorder r) := by
  refine .bind (.attempt failure (within_keep other replied recorder r))
    fun kept known => ?_
  cases kept with
  | ok _ => exact .pure trivial
  | error f =>
    exact .bind (.note nofun) fun _ _ => .bind (.log _ _ _ _ fun _ => trivial) fun _ _ => .fail known

theorem within_run (recorder : Recorder) (rs : List Resource) :
    Within (.pass failure) (run env recorder rs) := by
  induction rs with
  | nil => exact .pure trivial
  | cons r rest ih => exact .bind (within_keepCounted other replied recorder r) fun _ _ => ih

end Pass

namespace Operator

variable (other : ∀ f, f.isApi = false → failure f)
  (replied : ∀ request w f, (env.reply request w).1 = .error f → failure f)

include replied in
theorem within_cluster? (o : Operator) : Within (.pass failure) (cluster? env o) := by
  refine .bind (.attempt failure
    (env.within_send (fun _ => trivial) (replied _))) fun looked known => ?_
  cases looked with
  | ok v => cases v <;> exact .pure trivial
  | error f =>
    dsimp only
    split
    · exact .pure trivial
    · exact .fail known

include other

theorem within_announce (rs : List Resource) (v : Value) :
    Within (.pass failure) (Projection.announce rs v : Action ω Unit) :=
  .bind (.ofExcept (fun _ _ => trivial) fun f failed =>
    other f (Projection.internal_notice _ _ f failed)) fun _ _ => .log _ _ _ _ fun _ => trivial

include replied

theorem within_project (o : Operator) (v : Value) : Within (.pass failure) (project env o v) := by
  refine .bind (.ofExcept (fun _ _ => trivial) fun f failed =>
    other f (StatusRequest.internal_projected _ _ f failed)) fun request _ => ?_
  dsimp only
  split
  · exact .bind (within_announce other _ _) fun _ _ =>
      .bind (env.within_send (fun _ => trivial) (replied _)) fun _ _ =>
      .bind (.note nofun) fun _ _ => .pure trivial
  · exact .pure trivial

/-- A pass ends, with a failure of a given sort if failures of the store are of that sort and those of
    the program's own making are. -/
theorem within_pass (o : Operator) : Within (.pass failure) (pass env o) := by
  refine .bind (Pass.within_run other replied o.recorder o.resources) fun _ _ =>
    .bind (within_cluster? replied o) fun found _ => ?_
  cases found with
  | none => exact .bind (.log _ _ _ _ fun _ => trivial) fun _ _ => .pure trivial
  | some v => exact .bind (within_project other replied o v) fun _ _ => .pure trivial

end Operator

end Passes

/-! ## Limits of the gate -/

/-- Entries that the watch over the gate leaves. -/
def Entry.OfGate : Entry → Prop
  | .call .. | .log _ | .wait _ | .measured .. => True
  | _ => False

/-- The limits of the watch over the gate, which can fail in any way and take any time. -/
def Limits.gate : Limits := ⟨Entry.OfGate, fun _ => True, True⟩

section Gates
open MonitoringUpkeep.Action

variable {ω : Type} (env : Environment ω)

/-- All that is done for the gate are calls, waits, records and measurements. -/
theorem Environment.steps_gate : env.Steps (fun _ => True)
    (fun _ t _ => ∀ e ∈ t, e.OfGate) fun _ => True where
  rest _ := nofun
  chain first others e member := (List.mem_append.mp member).elim (first e) (others e)
  call _ _ _ := List.forall_mem_singleton.mpr trivial
  clock _ := nofun
  wait _ _ := List.forall_mem_singleton.mpr trivial
  log _ _ := List.forall_mem_singleton.mpr trivial
  measured _ _ _ := List.forall_mem_singleton.mpr trivial
  refused _ _ _ _ _ := trivial
  broken _ _ _ _ := trivial
  own _ _ := trivial

theorem Operator.within_applyGate (o : Operator) : Within .gate (Operator.applyGate env o) := by
  intro w
  obtain ⟨entries, -⟩ := Operator.keeps_applyGate env.steps_gate o (fun _ => trivial)
    (fun _ _ _ _ => trivial) w
  refine ⟨entries, ?_⟩
  cases (Operator.applyGate env o w).ending <;> trivial

theorem Operator.within_applyGateLogged (o : Operator) :
    Within .gate (Operator.applyGateLogged env o) := by
  refine .bind (.attempt (fun _ => True) (Operator.within_applyGate env o)) fun changed _ => ?_
  cases changed with
  | ok u => exact .pure trivial
  | error f => exact .log _ _ _ _ fun _ => trivial

/-- Starting the change of the gate neither fails nor is cut off. -/
theorem Operator.within_startGate (o : Operator) :
    Within ⟨Entry.OfGate, fun _ => False, False⟩ (Operator.startGate env o) := by
  unfold Operator.startGate
  split
  · exact .pure trivial
  · exact .bind (.detach fun w => (Operator.within_applyGateLogged env o w).1)
      fun _ _ => .pure trivial

end Gates

end MonitoringUpkeep
