import Mathlib.Data.List.Forall2
import MonitoringUpkeep.Proofs.Lifecycle

/-!
# Runs through an outage

Failures of the store do not end a run: after each failed pass it rests for a while and tries again.
What can end it is the report of the failure, made to the same cluster: an answer of the API to the
report is taken for what it is, and any other failure of the report is a failure of the run. So a run
fails exactly where a pass fails by the outage and its report is lost to the same outage.
-/

namespace MonitoringUpkeep.Operator

variable {ω : Type} {env : Environment ω} {o : Operator} {w w' : ω}

/-- A rest after a pass: of a fixed length after a success, and around a bound of at most thirty
    seconds after a failure. -/
def IsRest (env : Environment ω) (o : Operator) (seconds : Value) :
    Ending (Option StatusRequest) → Prop
  | .done _ => seconds = .int o.configuration.resyncSeconds
  | _ => ∃ bound chance, 1 ≤ bound ∧ bound ≤ 30 ∧
    seconds = .real (backoff env.round bound chance)

theorem RestsUntil.isRest {v v' : ω} {seconds : Value} (rests : RestsUntil env o v seconds v') :
    IsRest env o seconds (pass env o v).ending := by
  cases rests with
  | succeeded made waited =>
    rw [made]
    exact rfl
  | failed made delivered low high drawn waited =>
    rw [made]
    exact ⟨_, _, low, high, rfl⟩

/-- One rest follows each pass from which the loop goes on. -/
theorem Follows.rests {v : ω} {rested : List ω} {seconds : List Value}
    (follows : Follows env o v rested seconds w) :
    List.Forall₂ (fun v s => IsRest env o s (pass env o v).ending) rested seconds := by
  induction follows with
  | nil => exact .nil
  | cons rests others ih => exact .cons rests.isRest ih

/-- How a run goes through an outage, beside its course. -/
structure Endures (env : Environment ω) (o : Operator) (w : ω) (rested : List ω)
    (last : Option ω) : Prop where
  /-- it fails exactly where the report of its last pass is lost -/
  fails : ∀ g, (run env o w).ending = .failed g ↔ ∃ v, last = some v ∧ Loses env o v g
  /-- it goes on where the report is not lost -/
  kept : ∀ v ∈ rested, ∀ g, ¬ Loses env o v g
  /-- it rests once after each pass from which it goes on, beside the waits for the gate -/
  rests : ∃ seconds, (run env o w).trace.waits = (startGate env o w).trace.waits ++ seconds ∧
    List.Forall₂ (fun v s => IsRest env o s (pass env o v).ending) rested seconds

/-- In an outage a run goes on, with a rest after each failed pass, until it is told to stop or
    access is denied, unless the report of a failed pass is lost: then it fails as the report did. -/
theorem run_endures (o : Operator) (steady : env.Steady o)
    (replies : ∀ request w f, (env.reply request w).1 = .error f → f.Coded) (w : ω) :
    ∃ rested last, Course env o w rested last ∧ Endures env o w rested last := by
  obtain ⟨rested, last, u, laps, effects⟩ := run_laps steady (pass_coded replies o) w
  refine ⟨rested, last, laps.course effects, laps.failed_iff, fun v member => (laps.goesOn v member).2,
    u.waits, ?_, (laps.follows le_rfl (by decide)).rests⟩
  rw [← Trace.waits_effects, effects, Trace.waits_append, Trace.waits_effects]

/-- The cluster fades away, and with the access to it all events are lost. -/
def fadingOut : Environment Nat :=
  .scripted fadingScript (fun n => if n < 13 then .ok () else .error (.fault .protocol "reset")) 5

/-- One pass succeeds, and the report of the failure of the next one is lost. -/
theorem run_endures_fading :
    fadingOut.Steady usual ∧
      (∀ request w f, (fadingOut.reply request w).1 = .error f → f.Coded) ∧
      Course fadingOut usual 0 [0] (some 12) ∧ Endures fadingOut usual 0 [0] (some 12) ∧
      (run fadingOut usual 0).ending = .failed (.fault .protocol "reset") ∧
      (run fadingOut usual 0).trace.events =
        (usual.resources.map fun r => Event.updated r.kind.kind.name r.name) ++
          [Event.passFailed "down"] ∧
      (run fadingOut usual 0).trace.waits = [.int 60] ∧
      (run fadingOut usual 0).trace.readyAfter false = true := by
  have steady : fadingOut.Steady usual := Environment.scripted_steady
  have replies : ∀ request w f, (fadingOut.reply request w).1 = .error f → f.Coded :=
    fun _ => fadingScript_coded
  obtain ⟨rested, last, course, endures⟩ := run_endures usual steady replies 0
  obtain ⟨seconds, waits, follows⟩ := course.follows
  obtain rfl : seconds = [.int 60] := waits.symm
  obtain ⟨_, rfl, second⟩ := follows.scripted
  obtain ⟨rfl, rfl⟩ := second.last_of_nil (show (13 : Nat) ≠ 12 by decide)
  exact ⟨steady, replies, course, endures, rfl, rfl, rfl, rfl⟩

/-- Where all requests and all events fail by the transport, a run fails, although it was not told to
    stop and access was not denied. -/
theorem run_fails_in_outage :
    let broken : Failure := .fault .protocol "Connection aborted"
    let env := Environment.scripted (fun _ => .error broken) (fun _ => .error broken) 5
    (∀ request w, (env.reply request w).1 = .error broken) ∧
      (∀ space body w, (env.deliver space body w).1 = .error broken) ∧
      (∀ w, env.stopped w = false) ∧ (∀ v, (pass env usual v).ending.isDenied = false) ∧
      (run env usual 0).ending = .failed broken := by
  intro broken env
  exact ⟨fun _ _ => rfl, fun _ _ _ => rfl, fun _ => rfl, fun _ => rfl, rfl⟩

end MonitoringUpkeep.Operator
