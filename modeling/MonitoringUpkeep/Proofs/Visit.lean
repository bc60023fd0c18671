import MonitoringUpkeep.Pass
import MonitoringUpkeep.Proofs.Effects

/-!
# Visits

A pass visits the managed objects one after the other. A visit starts with one look at the object,
and the reply determines the write that is due, if any. There are five ways in which a visit can go,
and a pass is a walk: visits that end well, up to the first that fails or to the end of the list. All
that a pass does in any environment is said by `Visit` and `Walk`; the later theorems about passes
are inductions over walks.
-/

namespace MonitoringUpkeep

/-- Whether a request writes an object that is not there yet. -/
def Request.isCreation : Request → Bool
  | .create .. => true
  | _ => false

namespace Resource

/-- The request by which a pass looks at the object. -/
def look (r : Resource) : Request := .get r.kind.kind r.name r.space

/-- The write that is due after a reply to the look, if any. The reply, the comparison or the repair
    can be a failure. -/
def due (r : Resource) (owner : Owner) : Reply → Except Failure (Option Request)
  | .ok .null => .ok (some (.create r.kind.kind (r.desired owner)))
  | .ok observed => do
    if ← r.differs observed (r.desired owner) then
      return some (.update r.kind.kind (← r.heal observed (r.desired owner)))
    else return none
  | .error f =>
    if f.isNotFound then .ok (some (.create r.kind.kind (r.desired owner))) else .error f

/-- What a reply asks for, by the step that decides it. -/
inductive Asks (r : Resource) (owner : Owner) : Reply → Except Failure (Option Request) → Prop
  | missing {f} (absent : f.isNotFound = true) :
      Asks r owner (.error f) (.ok (some (.create r.kind.kind (r.desired owner))))
  | unread {f} (other : f.isNotFound = false) : Asks r owner (.error f) (.error f)
  | uncompared {observed f} (fails : r.differs observed (r.desired owner) = .error f) :
      Asks r owner (.ok observed) (.error f)
  | inSync {observed} (same : r.differs observed (r.desired owner) = .ok false) :
      Asks r owner (.ok observed) (.ok none)
  | unhealed {observed f} (drifted : r.differs observed (r.desired owner) = .ok true)
      (fails : r.heal observed (r.desired owner) = .error f) :
      Asks r owner (.ok observed) (.error f)
  | drifted {observed body} (drifted : r.differs observed (r.desired owner) = .ok true)
      (healed : r.heal observed (r.desired owner) = .ok body) :
      Asks r owner (.ok observed) (.ok (some (.update r.kind.kind body)))

theorem due_asks (r : Resource) (owner : Owner) (reply : Reply) (present : reply ≠ .ok .null) :
    Asks r owner reply (r.due owner reply) := by
  cases reply with
  | error f =>
    by_cases absent : f.isNotFound
    · simpa only [due, absent, if_true] using Asks.missing absent
    · simpa [due, absent] using Asks.unread (by simpa using absent)
  | ok observed =>
    have unfolded : r.due owner (.ok observed) = do
        if ← r.differs observed (r.desired owner) then
          return some (.update r.kind.kind (← r.heal observed (r.desired owner)))
        else return none := by
      cases observed with
      | null => exact absurd rfl present
      | _ => rfl
    rw [unfolded]
    cases compared : r.differs observed (r.desired owner) with
    | error f => exact .uncompared compared
    | ok drifted =>
      cases drifted with
      | false => exact .inSync compared
      | true =>
        cases healed : r.heal observed (r.desired owner) with
        | error f => exact .unhealed compared healed
        | ok body => exact .drifted compared healed

/-- What is due is a whole write of an object of the kind. -/
theorem due_writes {r : Resource} {owner : Owner} {reply : Reply} {request : Request}
    (due : r.due owner reply = .ok (some request)) :
    (∃ body, request = .create r.kind.kind body) ∨ ∃ body, request = .update r.kind.kind body := by
  by_cases null : reply = .ok .null
  · subst null
    cases due
    exact .inl ⟨_, rfl⟩
  · have asks := r.due_asks owner reply null
    rw [due] at asks
    cases asks with
    | missing absent => exact .inl ⟨_, rfl⟩
    | drifted drifted healed => exact .inr ⟨_, rfl⟩

/-- The event that reports a write of the object. -/
def report (r : Resource) (request : Request) : Event :=
  if request.isCreation then Event.created r.kind.kind.name r.name
  else Event.updated r.kind.kind.name r.name

/-- The counter of a write of the object. -/
def tally (r : Resource) (request : Request) : Counter := .writes r.kind request.isCreation

end Resource

namespace Pass

variable {ω : Type}

/-- The ways in which a visit can go: from a world, how it ends, what it does, and the world it
    leaves. -/
inductive Visit (env : Environment ω) (recorder : Recorder) (r : Resource) (w : ω) :
    Ending Unit → Trace → ω → Prop
  /-- the look, the comparison or the repair fails -/
  | unseen {reply w₁ f} (looked : env.reply r.look w = (reply, w₁))
      (due : r.due recorder.owner reply = .error f) :
      Visit env recorder r w (.failed f) [.call r.look reply, .count (.errors r.kind)] w₁
  /-- no write is due -/
  | kept {reply w₁} (looked : env.reply r.look w = (reply, w₁))
      (due : r.due recorder.owner reply = .ok none) :
      Visit env recorder r w (.done ()) [.call r.look reply] w₁
  /-- the due write fails -/
  | unwritten {reply w₁ request f w₂} (looked : env.reply r.look w = (reply, w₁))
      (due : r.due recorder.owner reply = .ok (some request))
      (sent : env.reply request w₁ = (.error f, w₂)) :
      Visit env recorder r w (.failed f)
        [.call r.look reply, .call request (.error f), .count (.errors r.kind)] w₂
  /-- the due write is done and reported -/
  | written {reply w₁ request v w₂ answer w₃} (looked : env.reply r.look w = (reply, w₁))
      (due : r.due recorder.owner reply = .ok (some request))
      (sent : env.reply request w₁ = (.ok v, w₂))
      (delivered : env.deliver recorder.owner.space (recorder.body (r.report request)) w₂ =
        (answer, w₃))
      (accepted : ∀ f, answer = .error f → f.isApi) :
      Visit env recorder r w (.done ())
        [.call r.look reply, .call request (.ok v), .count (r.tally request),
          recorder.entry (r.report request)] w₃
  /-- the due write is done and its report fails -/
  | unreported {reply w₁ request v w₂ f w₃} (looked : env.reply r.look w = (reply, w₁))
      (due : r.due recorder.owner reply = .ok (some request))
      (sent : env.reply request w₁ = (.ok v, w₂))
      (delivered : env.deliver recorder.owner.space (recorder.body (r.report request)) w₂ =
        (.error f, w₃))
      (other : f.isApi = false) :
      Visit env recorder r w (.failed f)
        [.call r.look reply, .call request (.ok v), .count (r.tally request),
          recorder.entry (r.report request), .count (.errors r.kind)] w₃

/-- A pass from a world: visits that end well, up to the first that fails. -/
inductive Walk (env : Environment ω) (recorder : Recorder) :
    List Resource → ω → Ending Unit → Trace → ω → Prop
  | nil (w : ω) : Walk env recorder [] w (.done ()) [] w
  | step {r rest w w₁ w₂ ending t u} (first : Visit env recorder r w (.done ()) t w₁)
      (others : Walk env recorder rest w₁ ending u w₂) :
      Walk env recorder (r :: rest) w ending (t ++ u) w₂
  | stop {r rest w w₁ f t} (first : Visit env recorder r w (.failed f) t w₁) :
      Walk env recorder (r :: rest) w (.failed f) t w₁

variable {env : Environment ω} {recorder : Recorder}

/-- A write of an object with its count, its log record and its report. -/
def carryOut (env : Environment ω) (recorder : Recorder) (r : Resource) (request : Request)
    (message : String) : Action ω Unit := do
  let _ ← env.send request
  Action.count (r.tally request)
  Action.log Level.info logger message
  recorder.emit env (r.report request)

/-- How an action goes on when a write is due, or fails, or has nothing to do. -/
inductive Follows (env : Environment ω) (recorder : Recorder) (r : Resource) (w : ω)
    (o : Outcome ω Unit) : Except Failure (Option Request) → Prop
  | fails {f} (outcome : o = ⟨.failed f, [], w⟩) : Follows env recorder r w o (.error f)
  | rests (record) (outcome : o = ⟨.done (), [.log record], w⟩) :
      Follows env recorder r w o (.ok none)
  | writes {request} (message) (outcome : o = carryOut env recorder r request message w) :
      Follows env recorder r w o (.ok (some request))

theorem create_follows (r : Resource) (w : ω) :
    Follows env recorder r w (create env recorder r w)
      (.ok (some (.create r.kind.kind (r.desired recorder.owner)))) :=
  .writes ("Created " ++ place r) rfl

theorem repair_follows (r : Resource) (w : ω) {observed : Value} (given : observed ≠ .null) :
    Follows env recorder r w (repair env recorder r observed w)
      (r.due recorder.owner (.ok observed)) := by
  have asks := r.due_asks recorder.owner (.ok observed) (by simpa using given)
  generalize r.due recorder.owner (.ok observed) = write at asks
  cases asks with
  | uncompared fails => exact .fails (by simp only [repair, fails]; rfl)
  | inSync same =>
    exact .rests ⟨Level.debug, logger, place r ++ " is up to date", none⟩
      (by simp only [repair, same]; rfl)
  | unhealed drifted fails => exact .fails (by simp only [repair, drifted, fails]; rfl)
  | drifted drifted healed =>
    exact .writes ("Reverted drift on " ++ place r)
      (by simp only [repair, drifted, healed]; rfl)

/-- What a pass does about an object before failures are counted: one look, and what follows from
    the reply. -/
theorem keep_follows (recorder : Recorder) {r : Resource} {w w₁ : ω} {reply : Reply}
    (looked : env.reply r.look w = (reply, w₁)) : ∃ o,
      keep env recorder r w = ⟨o.ending, .call r.look reply :: o.trace, o.world⟩ ∧
      Follows env recorder r w₁ o (r.due recorder.owner reply) := by
  cases reply with
  | ok observed =>
    have seen := Action.attempt_done (Environment.send_done looked)
    by_cases given : observed = .null
    · subst given
      exact ⟨create env recorder r w₁, Action.bind_done seen _, create_follows r w₁⟩
    · refine ⟨repair env recorder r observed w₁, ?_, repair_follows r w₁ given⟩
      cases observed with
      | null => exact absurd rfl given
      | _ => exact Action.bind_done seen _
  | error f =>
    have seen := Action.attempt_failed (Environment.send_failed looked)
    by_cases missing : f.isNotFound
    · refine ⟨create env recorder r w₁, ?_, ?_⟩
      · refine (Action.bind_done seen _).trans ?_
        simp only [missing, if_true, List.cons_append, List.nil_append]
      · simpa only [Resource.due, missing, if_true] using create_follows r w₁
    · refine ⟨⟨.failed f, [], w₁⟩, ?_, ?_⟩
      · refine (Action.bind_done seen _).trans ?_
        simp [missing]
      · simp only [Resource.due, missing]
        exact .fails rfl

theorem carryOut_refused {r : Resource} {request : Request} {message : String} {w w₁ : ω}
    {f : Failure} (sent : env.reply request w = (.error f, w₁)) :
    carryOut env recorder r request message w = ⟨.failed f, [.call request (.error f)], w₁⟩ :=
  Action.bind_failed (Environment.send_failed sent) _

/-- A write that was done is counted and reported, and ends as the report does. -/
theorem carryOut_sent {r : Resource} {request : Request} (message : String) {w w₁ w₂ : ω}
    {v : Value} {ending : Ending Unit} {t : Trace} (sent : env.reply request w = (.ok v, w₁))
    (reported : recorder.emit env (r.report request) w₁ = ⟨ending, t, w₂⟩) : ∃ u,
      carryOut env recorder r request message w = ⟨ending, u, w₂⟩ ∧
      u.effects = .call request (.ok v) :: .count (r.tally request) :: t.effects := by
  refine ⟨.call request (.ok v) :: .count (r.tally request) ::
    .log ⟨Level.info, logger, message, none⟩ :: t, ?_, rfl⟩
  rw [carryOut, Action.bind_done (Environment.send_done sent),
    Action.bind_done (Action.count_apply _ w₁), Action.bind_done (Action.log_apply _ _ _ _ w₁),
    reported]
  rfl

theorem keepCounted_done {r : Resource} {w w' : ω} {t : Trace}
    (kept : keep env recorder r w = ⟨.done (), t, w'⟩) :
    keepCounted env recorder r w = ⟨.done (), t, w'⟩ := by
  refine (Action.bind_done (Action.attempt_done kept) _).trans ?_
  simp only [Action.pure_apply, List.append_nil]

theorem keepCounted_failed {r : Resource} {w w' : ω} {f : Failure} {t : Trace}
    (kept : keep env recorder r w = ⟨.failed f, t, w'⟩) : ∃ u,
      keepCounted env recorder r w = ⟨.failed f, u, w'⟩ ∧
      u.effects = t.effects ++ [.count (.errors r.kind)] := by
  refine ⟨t ++ [.count (.errors r.kind),
    .log ⟨Level.error, logger, "Failed to reconcile " ++ place r, none⟩], ?_, ?_⟩
  · exact Action.bind_done (Action.attempt_failed kept) _
  · rw [Trace.effects_append]
    rfl

/-- A visit in which a write is due goes as the write and its report do. -/
theorem keepCounted_carried {r : Resource} {request : Request} {message : String} {w w₁ : ω}
    {reply : Reply} (looked : env.reply r.look w = (reply, w₁))
    (due : r.due recorder.owner reply = .ok (some request))
    (kept : keep env recorder r w = ⟨(carryOut env recorder r request message w₁).ending,
      .call r.look reply :: (carryOut env recorder r request message w₁).trace,
      (carryOut env recorder r request message w₁).world⟩) :
    Visit env recorder r w (keepCounted env recorder r w).ending
      (keepCounted env recorder r w).trace.effects (keepCounted env recorder r w).world := by
  rcases sent : env.reply request w₁ with ⟨answer, w₂⟩
  cases answer with
  | error f =>
    rw [carryOut_refused sent] at kept
    obtain ⟨u, counted, effects⟩ := keepCounted_failed kept
    rw [counted, effects]
    exact .unwritten looked due sent
  | ok v =>
    rcases delivered : env.deliver recorder.owner.space
      (recorder.body (r.report request)) w₂ with ⟨answer, w₃⟩
    by_cases accepted : ∀ f, answer = .error f → f.isApi
    · obtain ⟨t, reported, event⟩ := Recorder.emit_accepted delivered accepted
      obtain ⟨u, carried, effects⟩ := carryOut_sent message sent reported
      rw [carried] at kept
      rw [keepCounted_done kept, Trace.effects_call, effects, event]
      exact .written looked due sent delivered accepted
    · obtain ⟨f, rfl, other⟩ : ∃ f, answer = .error f ∧ f.isApi = false := by
        simpa using accepted
      obtain ⟨t, carried, effects⟩ := carryOut_sent message sent
        (Recorder.emit_failed delivered other)
      rw [carried] at kept
      obtain ⟨u, counted, counts⟩ := keepCounted_failed kept
      rw [counted, counts, Trace.effects_call, effects]
      exact .unreported looked due sent delivered other

/-- What a pass does about one object is a visit. -/
theorem keepCounted_visit (env : Environment ω) (recorder : Recorder) (r : Resource) (w : ω) :
    Visit env recorder r w (keepCounted env recorder r w).ending
      (keepCounted env recorder r w).trace.effects (keepCounted env recorder r w).world := by
  rcases looked : env.reply r.look w with ⟨reply, w₁⟩
  obtain ⟨o, kept, follows⟩ := keep_follows recorder looked
  cases due : r.due recorder.owner reply with
  | error f =>
    rw [due] at follows
    cases follows with
    | fails outcome =>
      subst outcome
      obtain ⟨u, counted, effects⟩ := keepCounted_failed kept
      rw [counted, effects]
      exact .unseen looked due
  | ok write =>
    rw [due] at follows
    cases follows with
    | rests record outcome =>
      subst outcome
      rw [keepCounted_done kept]
      exact .kept looked due
    | @writes request message outcome =>
      subst outcome
      exact keepCounted_carried looked due kept

/-- A pass is a walk. -/
theorem run_walk (env : Environment ω) (recorder : Recorder) (rs : List Resource) (w : ω) :
    Walk env recorder rs w (run env recorder rs w).ending (run env recorder rs w).trace.effects
      (run env recorder rs w).world := by
  induction rs generalizing w with
  | nil => exact .nil w
  | cons r rest ih =>
    have first := keepCounted_visit env recorder r w
    rcases counted : keepCounted env recorder r w with ⟨ending, t, w₁⟩
    rw [counted] at first
    cases ending with
    | done =>
      rw [run, Action.bind_done counted, Trace.effects_append]
      exact .step first (ih w₁)
    | failed f =>
      rw [run, Action.bind_failed counted]
      exact .stop first
    | unfinished => cases first

end Pass

end MonitoringUpkeep
