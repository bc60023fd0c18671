import MonitoringUpkeep.Proofs.Laps

/-!
# The lifecycle of a run

A run of the operator makes passes until it is told to stop or the cluster denies access, and nothing
else ends it as long as no report is lost. What it asks, reports and counts is what its passes do and
one note of the end of each; the readiness flag is up from the first success to the end of the run.
-/

namespace MonitoringUpkeep

/-! ## The readiness flag along a trace -/

/-- Whether an entry involves the world: a request, an event or a wait. -/
def Entry.isStep : Entry → Bool
  | .call .. | .event .. | .wait _ => true
  | _ => false

/-- An entry that neither changes the readiness flag nor counts a success. -/
def Entry.Plain (e : Entry) : Prop := (∀ flag, e ≠ .ready flag) ∧ e ≠ .count (.passes true)

theorem Entry.OfPass.plain {e : Entry} (entry : e.OfPass) : e.Plain := by
  refine ⟨?_, ?_⟩
  · rintro flag rfl
    exact entry
  · rintro rfl
    exact entry true rfl

theorem Entry.OfGate.plain {e : Entry} (entry : e.OfGate) : e.Plain := by
  refine ⟨?_, ?_⟩
  · rintro flag rfl
    exact entry
  · rintro rfl
    exact entry

namespace Trace

/-- At each step along a trace the readiness flag is up if it was before, or if a success has been
    counted on the way, and only then. -/
def Shows (flag : Bool) (t : Trace) : Prop :=
  ∀ (u : Trace) (e : Entry) (v : Trace), t = u ++ e :: v → e.isStep = true →
    (u.readyAfter flag = true ↔ flag = true ∨ Entry.count (.passes true) ∈ u)

@[simp] theorem readyAfter_append (flag : Bool) (t u : Trace) :
    (t ++ u).readyAfter flag = u.readyAfter (t.readyAfter flag) := List.foldl_append

theorem readyAfter_effects (flag : Bool) (t : Trace) :
    t.effects.readyAfter flag = t.readyAfter flag := by
  induction t generalizing flag with
  | nil => rfl
  | cons e rest ih => cases e <;> exact ih _

theorem readyAfter_cons {e : Entry} (plain : e.Plain) (flag : Bool) (t : Trace) :
    Trace.readyAfter flag (e :: t) = t.readyAfter flag := by
  cases e with
  | ready b => exact absurd rfl (plain.1 b)
  | _ => rfl

variable {flag : Bool} {t u : Trace}

theorem Shows.nil : Shows flag [] := by
  intro u e v split
  cases u <;> cases split

theorem Shows.ready (b : Bool) : Shows flag [.ready b] := by
  intro u e v split step
  obtain ⟨rfl, rfl⟩ : u = [] ∧ e = .ready b := by
    cases u with
    | nil => simpa [eq_comm] using And.left (List.cons_eq_cons.mp split)
    | cons first u => simp at split
  cases step

theorem Shows.cons {e : Entry} (plain : e.Plain) (shows : Shows flag t) : Shows flag (e :: t) := by
  rintro u e' v split step
  cases u with
  | nil => simp [readyAfter]
  | cons first u =>
    obtain ⟨rfl, tail⟩ := List.cons_eq_cons.mp split
    rw [readyAfter_cons plain, shows u e' v tail step, List.mem_cons]
    simp [Ne.symm plain.2]

theorem Shows.append (plain : ∀ e ∈ t, e.Plain) (shows : Shows flag u) : Shows flag (t ++ u) := by
  induction t with
  | nil => exact shows
  | cons e rest ih =>
    obtain ⟨first, others⟩ := List.forall_mem_cons.mp plain
    exact .cons first (ih others)

/-- A success raises the flag before the next step. -/
theorem Shows.success (shows : Shows true t) :
    Shows flag (.count (.passes true) :: .succeeded :: .ready true :: t) := by
  intro u e v split step
  match u, split with
  | [], split => cases split; cases step
  | [_], split => cases split; cases step
  | [_, _], split => cases split; cases step
  | _ :: _ :: _ :: u, split =>
    injection split with count split
    injection split with succeeded split
    injection split with ready split
    subst count succeeded ready
    have up : Trace.readyAfter true u = true := (shows u e v split step).mpr (.inl rfl)
    simpa [readyAfter] using up

theorem Shows.of_effects (shows : Shows flag t.effects) : Shows flag t := by
  rintro u e v rfl step
  have kept : effects (e :: v) = e :: effects v := by cases e <;> first | rfl | cases step
  rw [← readyAfter_effects, shows u.effects e v.effects (by rw [effects_append, kept]) step]
  simp [effects]

end Trace

namespace Operator

variable {ω : Type} {env : Environment ω} {o : Operator} {w w' : ω}

namespace Laps

variable {n bound : Nat} {rested : List ω} {last : Option ω} {ending : Ending Unit} {u : Trace}

theorem plain_effects {result : Ending (Option StatusRequest)} {t : Trace}
    (made : pass env o w = ⟨result, t, w'⟩) : ∀ e ∈ t.effects, e.Plain := by
  intro e member
  have entries := pass_entries env o w
  rw [made] at entries
  exact (entries e (List.mem_filter.mp member).1).plain

theorem plain_notes (o : Operator) (f : Failure) : ∀ e ∈ notes o (.failed f), e.Plain := by
  intro e member
  cases denial : f.isDenial <;> simp [notes, denial] at member
  · rcases member with rfl | rfl <;> simp [Entry.Plain, Recorder.entry]
  · simp [member, Entry.Plain]

/-- The loop shows by the flag whether a pass has succeeded. -/
theorem shows (laps : Laps env o n bound w rested last ending u w') (flag : Bool) :
    u.Shows flag := by
  induction laps generalizing flag with
  | cut => exact .nil
  | told => exact .ready false
  | denied free made =>
    rw [List.append_assoc]
    exact .append (plain_effects made) (.append (plain_notes o _) (.ready false))
  | lost free made =>
    rw [← List.append_nil (_ ++ _), List.append_assoc]
    exact .append (plain_effects made) (.append (plain_notes o _) .nil)
  | failed free made goesOn delivered accepted drawn waited others ih =>
    rw [List.append_assoc]
    exact .append (plain_effects made)
      (.append (plain_notes o _) (.cons ⟨nofun, nofun⟩ (ih flag)))
  | succeeded free made waited others ih =>
    rw [List.append_assoc]
    exact .append (plain_effects made) (.success (.cons ⟨nofun, nofun⟩ (ih true)))

/-- The flag is down when the loop returns. -/
theorem cleared (laps : Laps env o n bound w rested last ending u w') (done : ending = .done ())
    (flag : Bool) : u.readyAfter flag = false := by
  induction laps generalizing flag with
  | cut => cases done
  | told => rfl
  | denied => rw [Trace.readyAfter_append]; rfl
  | lost => cases done
  | failed free made goesOn delivered accepted drawn waited others ih =>
    rw [Trace.readyAfter_append]
    exact ih done _
  | succeeded free made waited others ih =>
    rw [Trace.readyAfter_append]
    exact ih done _

end Laps

/-! ## What a run asks, reports and counts -/

/-- The reports of how a pass ended: one of a failure that is no denial, with its cause. -/
def reports : Ending (Option StatusRequest) → List Event
  | .failed f => if f.isDenial then [] else [Event.passFailed f.cause]
  | _ => []

theorem events_notes (o : Operator) (ending : Ending (Option StatusRequest)) :
    (notes o ending).events = reports ending := by
  cases ending with
  | failed f => cases denial : f.isDenial <;> simp [notes, reports, denial] <;> rfl
  | _ => rfl

theorem requests_notes (o : Operator) (ending : Ending (Option StatusRequest)) :
    (notes o ending).requests = [] := by
  cases ending with
  | failed f => cases denial : f.isDenial <;> simp [notes, denial] <;> rfl
  | _ => rfl

/-- A pass does not count itself; its end is counted as a success or as a failure. -/
theorem count_passes (env : Environment ω) (o : Operator) (succeeded : Bool) (w : ω) :
    (Trace.counters ((pass env o w).trace ++ notes o (pass env o w).ending)).count
      (.passes succeeded) = if (pass env o w).ending.isDone == succeeded then 1 else 0 := by
  have own : (pass env o w).trace.counters.count (.passes succeeded) = 0 := by
    rw [List.count_eq_zero, Trace.counters, List.mem_filterMap]
    rintro ⟨e, member, seen⟩
    have entry := pass_entries env o w e member
    cases e with
    | count c =>
      cases seen
      exact entry succeeded rfl
    | _ => cases seen
  rw [Trace.counters_append, List.count_append, own, Nat.zero_add]
  cases ended : (pass env o w).ending with
  | done result => cases succeeded <;> rfl
  | failed f =>
    cases denial : f.isDenial <;> simp only [notes, denial] <;> cases succeeded <;> rfl
  | unfinished => exact absurd ended (pass_ends env o w)

namespace Laps

variable {n bound : Nat} {rested : List ω} {last : Option ω} {ending : Ending Unit} {u : Trace}

theorem requests (laps : Laps env o n bound w rested last ending u w') :
    u.requests = (rested ++ last.toList).flatMap fun v => (pass env o v).trace.requests := by
  refine (laps.filterMap (fun _ => rfl) (fun _ => rfl) (fun _ => rfl)).trans ?_
  congr 1
  funext v
  exact (Trace.requests_append _ _).trans (by rw [requests_notes, List.append_nil])

theorem events (laps : Laps env o n bound w rested last ending u w') :
    u.events = (rested ++ last.toList).flatMap fun v =>
      (pass env o v).trace.events ++ reports (pass env o v).ending := by
  refine (laps.filterMap (fun _ => rfl) (fun _ => rfl) (fun _ => rfl)).trans ?_
  congr 1
  funext v
  exact (Trace.events_append _ _).trans (by rw [events_notes])

/-- Each pass of the loop is counted once, as a success or as a failure. -/
theorem counts (laps : Laps env o n bound w rested last ending u w') (succeeded : Bool) :
    u.counters.count (.passes succeeded) =
      (rested ++ last.toList).countP fun v => (pass env o v).ending.isDone == succeeded := by
  have counters : u.counters = (rested ++ last.toList).flatMap fun v =>
      Trace.counters ((pass env o v).trace ++ notes o (pass env o v).ending) :=
    laps.filterMap (fun _ => rfl) (fun _ => rfl) (fun _ => rfl)
  rw [counters]
  induction rested ++ last.toList with
  | nil => rfl
  | cons v rest ih =>
    rw [List.flatMap_cons, List.count_append, count_passes, ih, List.countP_cons, Nat.add_comm]

end Laps

/-! ## Runs -/

/-- What the gate leaves in the trace of a run. -/
theorem startGate_entries (env : Environment ω) (o : Operator) (w : ω) :
    ∀ e ∈ (startGate env o w).trace, e.OfGate :=
  (within_startGate env o w).1

theorem startGate_events (env : Environment ω) (o : Operator) (w : ω) :
    (startGate env o w).trace.events = [] := by
  refine List.filterMap_eq_nil_iff.mpr fun e member => ?_
  have entry := startGate_entries env o w e member
  cases e with
  | event => exact entry.elim
  | _ => rfl

theorem startGate_counters (env : Environment ω) (o : Operator) (w : ω) :
    (startGate env o w).trace.counters = [] := by
  refine List.filterMap_eq_nil_iff.mpr fun e member => ?_
  have entry := startGate_entries env o w e member
  cases e with
  | count => exact entry.elim
  | _ => rfl

/-- A run goes in laps from where the start of the gate leaves the world. -/
theorem run_laps (steady : env.Steady o)
    (coded : ∀ w f, (pass env o w).ending = .failed f → f.Coded) (w : ω) :
    ∃ rested last u, Laps env o env.rounds 1 (startGate env o w).world rested last
        (run env o w).ending u (run env o w).world ∧
      (run env o w).trace.effects = (startGate env o w).trace.effects ++ u := by
  have meets := (within_startGate env o w).2
  rcases started : startGate env o w with ⟨ending, t, w₀⟩
  rw [started] at meets
  cases ending with
  | done any =>
    obtain ⟨rested, last, laps⟩ := passes_laps steady coded env.rounds le_rfl (by decide) w₀
    rw [run, Action.bind_done started]
    exact ⟨rested, last, _, laps, Trace.effects_append _ _⟩
  | failed f => exact meets.elim
  | unfinished => exact meets.elim

/-- The course of a run from a world: the worlds in which the passes start after which it rests, and
    the one in which its last pass starts if it rests no more. -/
structure Course (env : Environment ω) (o : Operator) (w : ω) (rested : List ω)
    (last : Option ω) : Prop where
  /-- the first pass starts where the start of the gate leaves the world, each other one where the rest
      after the one before it ends; without a last one the run ends there. These rests are the waits of
      the run beside those for the gate. -/
  follows : ∃ seconds, (run env o w).trace.waits = (startGate env o w).trace.waits ++ seconds ∧
    Follows env o (startGate env o w).world rested seconds (last.getD (run env o w).world)
  /-- no pass starts once the stop token is set -/
  free : ∀ v ∈ rested ++ last.toList, env.stopped v = false
  /-- no pass starts after a denial -/
  granted : ∀ v ∈ rested, (pass env o v).ending.isDenied = false
  returns : (run env o w).ending = .done () →
    (last = none ∧ env.stopped (run env o w).world = true) ∨
      ∃ v, last = some v ∧ (pass env o v).ending.isDenied = true
  /-- without an end it makes as many passes as there are rounds -/
  lasts : (run env o w).ending = .unfinished → last = none ∧ rested.length = env.rounds
  requests : (run env o w).trace.requests = (startGate env o w).trace.requests ++
    (rested ++ last.toList).flatMap fun v => (pass env o v).trace.requests
  /-- a pass reports no failure, and after a pass the run reports how it failed -/
  events : (run env o w).trace.events = (rested ++ last.toList).flatMap fun v =>
    (pass env o v).trace.events ++ reports (pass env o v).ending
  normal : ∀ v, ∀ e ∈ (pass env o v).trace.events, e.type = .str "Normal"
  counts : ∀ succeeded, (run env o w).trace.counters.count (.passes succeeded) =
    (rested ++ last.toList).countP fun v => (pass env o v).ending.isDone == succeeded
  /-- the flag is up from the first success on -/
  ready : (run env o w).trace.Shows false
  cleared : (run env o w).ending = .done () → (run env o w).trace.readyAfter false = false

/-- The laps of a run give its course. -/
theorem Laps.course {rested : List ω} {last : Option ω} {u : Trace}
    (laps : Laps env o env.rounds 1 (startGate env o w).world rested last (run env o w).ending u
      (run env o w).world)
    (effects : (run env o w).trace.effects = (startGate env o w).trace.effects ++ u) :
    Course env o w rested last := by
  refine {
    follows := ⟨u.waits, ?_, laps.follows le_rfl (by decide)⟩
    free := laps.free
    granted := fun v member => (laps.goesOn v member).1
    returns := laps.returns
    lasts := laps.goes_on
    requests := ?_
    events := ?_
    normal := ?_
    counts := ?_
    ready := ?_
    cleared := ?_ }
  · rw [← Trace.waits_effects, effects, Trace.waits_append, Trace.waits_effects]
  · rw [← Trace.requests_effects, effects, Trace.requests_append, Trace.requests_effects,
      laps.requests]
  · rw [← Trace.events_effects, effects, Trace.events_append, Trace.events_effects,
      startGate_events, laps.events, List.nil_append]
  · intro v e member
    obtain ⟨entry, known, seen⟩ := List.mem_filterMap.mp member
    have normal := pass_entries env o v entry known
    cases entry with
    | event e' space body =>
      cases seen
      exact normal
    | _ => cases seen
  · intro succeeded
    rw [← Trace.counters_effects, effects, Trace.counters_append, Trace.counters_effects,
      startGate_counters, List.nil_append, laps.counts]
  · have plain : ∀ e ∈ (startGate env o w).trace.effects, e.Plain := fun e member =>
      (startGate_entries env o w e (List.mem_filter.mp member).1).plain
    exact .of_effects (effects ▸ .append plain (laps.shows false))
  · intro done
    rw [← Trace.readyAfter_effects, effects, Trace.readyAfter_append]
    exact laps.cleared done _

/-- A pass that fails by an answer of the API fails by one that the store gave. -/
theorem pass_coded (replies : ∀ request w f, (env.reply request w).1 = .error f → f.Coded)
    (o : Operator) (w : ω) (f : Failure) (failed : (pass env o w).ending = .failed f) : f.Coded := by
  have within : Action.Within (.pass Failure.Coded) (pass env o) :=
    within_pass (fun _ => Failure.coded_of_not_api) replies o
  have meets := (within w).2
  rw [failed] at meets
  exact meets

/-- Where reports are not lost, a run never fails: it returns only where it is told to stop or where
    access is denied. -/
theorem run_lifecycle (o : Operator) (steady : env.Steady o) (quiet : env.Quiet)
    (coded : ∀ w f, (pass env o w).ending = .failed f → f.Coded) (w : ω) :
    ∃ rested last, Course env o w rested last ∧ ∀ f, (run env o w).ending ≠ .failed f := by
  obtain ⟨rested, last, u, laps, effects⟩ := run_laps steady coded w
  refine ⟨rested, last, laps.course effects, fun g failed => ?_⟩
  obtain ⟨v, -, ⟨f, t, w₁, w₂, -, -, delivered⟩, other⟩ := (laps.failed_iff g).mp failed
  have api := quiet _ _ _ _ (congrArg Prod.fst delivered)
  rw [api] at other
  cases other

end Operator

/-- A world that counts the requests. The store answers each by a script, each event is answered by
    another one, and the stop token is never set. -/
def Environment.scripted (script : Nat → Reply) (delivery : Nat → Except Failure Unit) (rounds : Nat) :
    Environment Nat where
  reply _ n := (script n, n + 1)
  deliver _ _ n := (delivery n, n)
  now n := (.finite 0, n)
  wait _ n := (.ok false, n)
  stopped _ := false
  draw n := (.real (.finite 0), n)
  rounds := rounds

/-- A run that rests no more and still goes on to another world makes one more pass. -/
theorem Operator.Follows.last_of_nil {ω : Type} {env : Environment ω} {o : Operator} {v w : ω}
    {rested : List ω} {last : Option ω} (follows : Follows env o v rested [] (last.getD w))
    (moved : w ≠ v) : rested = [] ∧ last = some v := by
  generalize ended : last.getD w = v' at follows
  cases follows
  rcases Option.getD_eq_iff.mp ended with final | ⟨-, same⟩
  · exact ⟨rfl, final⟩
  · exact absurd same moved

section Scripted

variable {script : Nat → Reply} {delivery : Nat → Except Failure Unit} {rounds : Nat} {o : Operator}

theorem Environment.scripted_steady : (scripted script delivery rounds).Steady o where
  draw n := ⟨.finite 0, n, rfl⟩
  success n := ⟨false, n, rfl⟩
  failure _ _ _ _ _ _ _ n := ⟨false, n, rfl⟩

/-- Where only requests count, the next pass starts where the one before it ended. -/
theorem Operator.Follows.scripted {v w : Nat} {rested : List Nat} {s : Value} {seconds : List Value}
    (follows : Follows (.scripted script delivery rounds) o v rested (s :: seconds) w) :
    ∃ others, rested = v :: others ∧ Follows (.scripted script delivery rounds) o
      (pass (.scripted script delivery rounds) o v).world others seconds w := by
  cases follows with
  | cons rests others =>
    refine ⟨_, rfl, ?_⟩
    cases rests with
    | succeeded made waited =>
      cases waited
      rwa [made]
    | failed made delivered low high drawn waited =>
      cases delivered
      cases drawn
      cases waited
      rwa [made]

end Scripted

namespace Operator

/-- The store answers the requests of one pass, then the transport fails, then access is denied. -/
def fadingScript (n : Nat) : Reply :=
  if n < 12 then .ok (.obj [])
  else if n = 12 then .error (.fault .transport "down")
  else .error (.api (.int 403) "Forbidden" .null "(403)\nReason: Forbidden\n")

theorem fadingScript_coded (n : Nat) (f : Failure) (failed : fadingScript n = .error f) :
    f.Coded := by
  unfold fadingScript at failed
  split at failed
  · cases failed
  · split at failed <;> cases failed
    · trivial
    · exact .inr ⟨403, rfl⟩

/-- The cluster fades away while all events are accepted. -/
def fading : Environment Nat := .scripted fadingScript (fun _ => .ok ()) 5

/-- One pass succeeds, the next one fails and is reported, and the last one is denied access. -/
theorem fading_course {rested : List Nat} {last : Option Nat} (course : Course fading usual 0 rested last) :
    rested = [0, 12] ∧ last = some 13 := by
  obtain ⟨seconds, waits, follows⟩ := course.follows
  obtain rfl : seconds = [.int 60, .real (backoff .finite 1 (.finite 0))] := waits.symm
  obtain ⟨_, rfl, second⟩ := follows.scripted
  obtain ⟨_, rfl, third⟩ := second.scripted
  obtain ⟨rfl, rfl⟩ := third.last_of_nil (show (14 : Nat) ≠ 13 by decide)
  exact ⟨rfl, rfl⟩

theorem run_lifecycle_fading :
    fading.Steady usual ∧ fading.Quiet ∧
      (∀ w f, (pass fading usual w).ending = .failed f → f.Coded) ∧
      Course fading usual 0 [0, 12] (some 13) ∧ (run fading usual 0).ending = .done () ∧
      (run fading usual 0).trace.events =
        (usual.resources.map fun r => Event.updated r.kind.kind.name r.name) ++
          [Event.passFailed "down"] ∧
      (run fading usual 0).trace.waits = [.int 60, .real (backoff .finite 1 (.finite 0))] ∧
      ((run fading usual 0).trace.filterMap fun
        | .ready flag => some flag
        | _ => none) = [true, false] := by
  have steady : fading.Steady usual := Environment.scripted_steady
  have quiet : fading.Quiet := nofun
  have coded : ∀ w f, (pass fading usual w).ending = .failed f → f.Coded :=
    pass_coded (fun _ => fadingScript_coded) usual
  obtain ⟨rested, last, course, -⟩ := run_lifecycle usual steady quiet coded 0
  obtain ⟨rfl, rfl⟩ := fading_course course
  exact ⟨steady, quiet, coded, course, rfl, rfl, rfl, rfl⟩

end Operator

end MonitoringUpkeep
