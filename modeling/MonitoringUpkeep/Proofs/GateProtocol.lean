import MonitoringUpkeep.Proofs.GateLooks

/-!
# The protocol of a change of the gate

Whatever the cluster answers, a change of the gate calls it in phases: it lists the nodes if the gate
is to be enabled, patches the gate until that goes through, looks at the quota until it has followed,
and looks at the workloads if any are expected. A phase starts only after the one before succeeded,
and a refusal that asking again cannot change ends the change at once. All of this is said by
`Gate.Protocol`, and `Gate.set_protocol` says that every change keeps to it.
-/

namespace MonitoringUpkeep

namespace Gate
open MonitoringUpkeep.Action

variable (g : Gate) (enable : Value) {ω : Type} (env : Environment ω) (w : ω)

/-- How the tries of the patch go: all but the last fail without being refused, a refusal ends the
    change, and the change goes on only after the last went through. -/
structure Tries (patches : List Reply) (ending : Ending Unit) : Prop where
  transient : ∀ reply ∈ patches.dropLast, ∃ f, reply = .error f ∧ f.isRetryable = true ∧ ¬ f.Refuses
  refused : ∀ f, .error f ∈ patches → f.Refuses → ending = .failed (.gateRejected f.grounds)
  through : ending = .done () → ∃ v, patches.getLast? = some (.ok v)

/-- What refuses the patch is the reply to its last try. -/
theorem Tries.refused_last {patches : List Reply} {ending : Ending Unit}
    (tries : Tries patches ending) {f : Failure} (member : .error f ∈ patches)
    (refuses : f.Refuses) : patches.getLast? = some (.error f) := by
  obtain rfl | ⟨earlier, reply, rfl⟩ := List.eq_nil_or_concat patches
  · cases member
  · have transient := tries.transient
    rw [List.concat_eq_append, List.dropLast_concat] at transient
    rw [List.concat_eq_append] at member ⊢
    rcases List.mem_append.mp member with before | last
    · obtain ⟨_, same, _, accepted⟩ := transient _ before
      cases same
      exact absurd refuses accepted
    · rw [List.mem_singleton.mp last, List.getLast?_concat]

theorem Watched.tries {looks : List ω} {x : Outcome ω Unit}
    (watched : Watched (tryPatch env g enable) looks x) :
    Tries (looks.map fun v => (env.reply (g.patchRequest enable) v).1) x.ending := by
  have call := fun v => (tryPatch_call g enable env v).2
  refine ⟨?_, ?_, ?_⟩
  · intro reply member
    rw [← List.map_dropLast] at member
    obtain ⟨v, look, rfl⟩ := List.mem_map.mp member
    have misses := watched.missed v look
    rw [call v] at misses
    cases replied : (env.reply (g.patchRequest enable) v).1 with
    | error f =>
      rw [replied] at misses
      exact ⟨f, rfl, of_verdict_retryable misses⟩
    | ok u =>
      rw [replied] at misses
      cases misses
  · -- A refusal is a failure for good, which ends the wait wherever it comes.
    intro f member refuses
    obtain ⟨v, look, replied⟩ := List.mem_map.mp member
    have ends := call v
    rw [replied] at ends
    dsimp only at ends
    rw [verdict_of_refuses refuses] at ends
    exact watched.failed v look _ ends rfl
  · intro done
    have went : ∀ v, (tryPatch env g enable v).ending = .done true →
        ∃ u, (env.reply (g.patchRequest enable) v).1 = .ok u := by
      intro v held
      rw [call v] at held
      cases replied : (env.reply (g.patchRequest enable) v).1 with
      | error f =>
        rw [replied] at held
        cases held
      | ok u => exact ⟨u, rfl⟩
    obtain ⟨_, last, u, rfl⟩ := watched.answered env _ (fun reply => ∃ u, reply = .ok u) went done
    exact ⟨u, last⟩

/-- A record after an action is neither a call nor an end of its own. -/
theorem chain_log (x : Action ω Unit) (level : Int) (logger message : String) (w : ω) :
    ((x >>= fun _ => Action.log level logger message) w).ending = (x w).ending ∧
      ((x >>= fun _ => Action.log level logger message) w).trace.calls = (x w).trace.calls := by
  rcases chain_cases x (fun _ => Action.log level logger message) w with
    ⟨done, ending, trace⟩ | ⟨_, ending, trace⟩
  · rw [ending, trace, done]
    exact ⟨rfl, (Trace.calls_append ..).trans (List.append_nil _)⟩
  · rw [ending, trace]
    exact ⟨rfl, rfl⟩

/-- A patch is a phase of tries. -/
theorem patch_tries : ∃ patches,
    (patch env g enable w).trace.calls = patches.map (g.patchRequest enable, ·) ∧
      Tries patches (patch env g enable w).ending := by
  obtain ⟨looks, watched⟩ := watched env w .patch
    ⟨.str s!"{Failure.gateName}={Text.lower enable.display} patch", g.patchTimeout, g.patchInterval⟩
    (tryPatch env g enable)
  have tries := watched.tries
  have calls := watched.calls
  rw [flatMap_call env fun v => (tryPatch_call g enable env v).1] at calls
  have recorded := chain_log (watch env .patch
    ⟨.str s!"{Failure.gateName}={Text.lower enable.display} patch", g.patchTimeout, g.patchInterval⟩
    (tryPatch env g enable)) Level.info Poll.logger
    s!"Set the {Failure.gateName} feature gate to {enable.display}" w
  rw [← recorded.1] at tries
  rw [← recorded.2] at calls
  exact ⟨_, calls, tries⟩

/-- A wait whose looks are one call each repeats that call, up to a reply of the kind that ends it. -/
theorem watch_replies (request : Request) (Good : Reply → Prop) {condition : Action ω Bool}
    (call : ∀ v, (condition v).trace.calls = [(request, (env.reply request v).1)] ∧
      ((condition v).ending = .done true → Good (env.reply request v).1))
    (measure : GateCondition) (p : Poll) : ∃ replies : List Reply,
    (watch env measure p condition w).trace.calls = replies.map (request, ·) ∧
      ((watch env measure p condition w).ending = .done () →
        ∃ reply, replies.getLast? = some reply ∧ Good reply) := by
  obtain ⟨looks, watched⟩ := watched env w measure p condition
  refine ⟨looks.map fun v => (env.reply request v).1, ?_, ?_⟩
  · rw [← flatMap_call env fun v => (call v).1]
    exact watched.calls
  · exact watched.answered env request Good fun v => (call v).2

/-- After the gate is disabled the quota is looked at until it is gone. -/
theorem awaitRemoved_quotas : ∃ quotas : List Reply,
    (awaitRemoved env g w).trace.calls = quotas.map (g.quotaLook, ·) ∧
      ((awaitRemoved env g w).ending = .done () →
        ∃ f, quotas.getLast? = some (.error f) ∧ f.isNotFound = true) := by
  obtain ⟨quotas, calls, gone⟩ := watch_replies env w g.quotaLook
    (fun reply => ∃ f, reply = .error f ∧ f.isNotFound = true) (isRemoved_call g env) .removed
    ⟨.str s!"MTQ {g.quotaName} to be removed", g.timeout, g.interval⟩
  refine ⟨quotas, calls, fun done => ?_⟩
  obtain ⟨_, last, f, rfl, missing⟩ := gone done
  exact ⟨f, last, missing⟩

/-- After the gate is enabled the quota is looked at until it is available. -/
theorem awaitAvailable_quotas : ∃ quotas : List Reply,
    (awaitAvailable env g w).trace.calls = quotas.map (g.quotaLook, ·) ∧
      ((awaitAvailable env g w).ending = .done () →
        ∃ v : Value, quotas.getLast? = some (.ok v) ∧ v.Affirms (.str available)) := by
  obtain ⟨quotas, calls, appeared⟩ := watch_replies env w g.quotaLook
    (fun reply => ∃ v : Value, reply = .ok v ∧ v.Affirms (.str available)) (isAvailable_call g env)
    .available ⟨.str s!"MTQ {g.quotaName} to report {available}", g.timeout, g.interval⟩
  refine ⟨quotas, calls, fun done => ?_⟩
  obtain ⟨_, last, v, rfl, affirms⟩ := appeared done
  exact ⟨v, last, affirms⟩

/-- The workloads are looked at in rounds, until one finds them complete. -/
theorem awaitWorkloads_rounds : ∃ rounds : List (List (Request × Reply)),
    (awaitWorkloads env g w).trace.calls = rounds.flatten ∧ (∀ r ∈ rounds, g.IsRound r) ∧
      ((awaitWorkloads env g w).ending = .done () →
        ∃ r, rounds.getLast? = some r ∧ g.IsComplete r) := by
  have round := workloadsReady_round g env
  obtain ⟨looks, watched⟩ := watched env w .workloads
    ⟨.str s!"{g.expectedDeployments.display} ready multi-tenant deployments", g.timeout, g.interval⟩
    (workloadsReady env g)
  refine ⟨looks.map fun v => (workloadsReady env g v).trace.calls, ?_, ?_, fun done => ?_⟩
  · rw [← List.flatMap_def]
    exact watched.calls
  · intro r member
    obtain ⟨v, _, rfl⟩ := List.mem_map.mp member
    exact (round v).1
  · obtain ⟨v, last, held⟩ := watched.held done
    exact ⟨_, by rw [List.getLast?_map, last, Option.map_some], (round v).2 held⟩

/-- The calls of a change of the gate, phase by phase: lists of the nodes, tries of the patch, looks at
    the quota, and rounds of looks at the workloads. -/
def phases (nodes patches quotas : List Reply) (rounds : List (List (Request × Reply))) :
    List (Request × Reply) :=
  nodes.map (nodeList, ·) ++ patches.map (g.patchRequest enable, ·) ++
    quotas.map (g.quotaLook, ·) ++ rounds.flatten

/-- The protocol after the patch, by the replies of its phases and the ending of the change. -/
structure Follows (quotas : List Reply) (rounds : List (List (Request × Reply)))
    (ending : Ending Unit) : Prop where
  /-- the workloads are looked at only after the quota was found available, where any are expected -/
  worked : rounds ≠ [] → enable.isBlank = false ∧
    (Value.int 0).isBelow g.expectedDeployments = .ok true ∧
    ∃ v, quotas.getLast? = some (.ok v) ∧ v.Affirms (.str available)
  rounded : ∀ r ∈ rounds, g.IsRound r
  /-- a change to disabled ends well only after the quota was found to be gone -/
  removed : ending = .done () → enable.isBlank = true →
    ∃ f, quotas.getLast? = some (.error f) ∧ f.isNotFound = true
  /-- a change to enabled ends well only after the quota was found available -/
  appeared : ending = .done () → enable.isBlank = false →
    ∃ v, quotas.getLast? = some (.ok v) ∧ v.Affirms (.str available)
  /-- where workloads are expected, it ends well only after a round that found them complete -/
  completed : ending = .done () → enable.isBlank = false →
    (Value.int 0).isBelow g.expectedDeployments = .ok true →
    ∃ r, rounds.getLast? = some r ∧ g.IsComplete r

/-- The protocol from the first try of the patch on. -/
structure Changes (patches quotas : List Reply) (rounds : List (List (Request × Reply)))
    (ending : Ending Unit) : Prop extends Follows g enable quotas rounds ending where
  /-- a try that is not the last fails in a way that may go away -/
  transient : ∀ reply ∈ patches.dropLast, ∃ f, reply = .error f ∧ f.isRetryable = true ∧ ¬ f.Refuses
  /-- a refusal ends the change at once -/
  refused : ∀ f, .error f ∈ patches → f.Refuses →
    patches.getLast? = some (.error f) ∧ quotas = [] ∧ rounds = [] ∧
      ending = .failed (.gateRejected f.grounds)
  /-- the quota is looked at only after the last try went through -/
  quoted : quotas ≠ [] → ∃ v, patches.getLast? = some (.ok v)
  patched : ending = .done () → ∃ v, patches.getLast? = some (.ok v)

/-- The protocol of a change. -/
structure Protocol (nodes patches quotas : List Reply) (rounds : List (List (Request × Reply)))
    (ending : Ending Unit) : Prop extends Changes g enable patches quotas rounds ending where
  /-- the nodes are listed once, and only if the gate is to be enabled -/
  listed : nodes.length = if enable.isBlank then 0 else 1
  /-- with at most one node the change ends after their list -/
  single : ∀ items, .ok (.arr items) ∈ nodes → items.length ≤ 1 →
    patches = [] ∧ quotas = [] ∧ rounds = [] ∧ ending = .failed .singleWorker
  /-- to enable the gate, it is patched only where there are more -/
  spread : patches ≠ [] → enable.isBlank = true ∨
    ∃ items, nodes = [.ok (.arr items)] ∧ 1 < items.length

/-- A change that goes wrong before the workloads are looked at keeps to the protocol. -/
theorem follows_of_undone {ending : Ending Unit} (undone : ending ≠ .done ())
    (quotas : List Reply) : Follows g enable quotas [] ending :=
  ⟨fun looked => absurd rfl looked, nofun, fun done => absurd done undone,
    fun done => absurd done undone, fun done => absurd done undone⟩

theorem awaitRemoved_follows (blank : enable.isBlank = true) : ∃ quotas rounds,
    (awaitRemoved env g w).trace.calls = quotas.map (g.quotaLook, ·) ++ rounds.flatten ∧
      Follows g enable quotas rounds (awaitRemoved env g w).ending := by
  obtain ⟨quotas, calls, removed⟩ := awaitRemoved_quotas g env w
  have kept : enable.isBlank ≠ false := by simp [blank]
  exact ⟨quotas, [], by rw [calls, List.flatten_nil, List.append_nil], fun looked => absurd rfl looked,
    nofun, fun done _ => removed done, fun _ given => absurd given kept,
    fun _ given => absurd given kept⟩

/-- Waits for the workloads where any are expected. -/
def awaitExpected : Action ω Unit := do
  if ← ofExcept ((Value.int 0).isBelow g.expectedDeployments) then awaitWorkloads env g

theorem awaitExpected_follows (given : enable.isBlank = false) {quotas : List Reply} {v : Value}
    (last : quotas.getLast? = some (.ok v)) (affirms : v.Affirms (.str available)) : ∃ rounds,
    (awaitExpected g env w).trace.calls = rounds.flatten ∧
      Follows g enable quotas rounds (awaitExpected g env w).ending := by
  have kept : enable.isBlank ≠ true := by simp [given]
  have followed : ∃ v, quotas.getLast? = some (.ok v) ∧ v.Affirms (.str available) :=
    ⟨v, last, affirms⟩
  cases expected : (Value.int 0).isBelow g.expectedDeployments with
  | error f =>
    have unknown : (ofExcept (.error f : Except Failure Bool) : Action ω Bool) w =
      ⟨.failed f, [], w⟩ := rfl
    rw [awaitExpected, expected, bind_failed unknown]
    exact ⟨[], rfl, fun looked => absurd rfl looked, nofun, nofun, nofun, nofun⟩
  | ok any =>
    have known : (ofExcept (.ok any : Except Failure Bool) : Action ω Bool) w =
      ⟨.done any, [], w⟩ := rfl
    rw [awaitExpected, expected, bind_done known]
    cases any with
    | true =>
      obtain ⟨rounds, calls, rounded, completed⟩ := awaitWorkloads_rounds g env w
      exact ⟨rounds, calls, fun _ => ⟨given, expected, followed⟩, rounded,
        fun _ blank => absurd blank kept, fun _ _ => followed, fun done _ _ => completed done⟩
    | false =>
      refine ⟨[], rfl, fun looked => absurd rfl looked, nofun, fun _ blank => absurd blank kept,
        fun _ _ => followed, fun _ _ wanted => ?_⟩
      rw [expected] at wanted
      cases wanted

theorem awaitAvailable_follows (given : enable.isBlank = false) : ∃ quotas rounds,
    ((awaitAvailable env g >>= fun _ => awaitExpected g env) w).trace.calls =
        quotas.map (g.quotaLook, ·) ++ rounds.flatten ∧
      Follows g enable quotas rounds
        ((awaitAvailable env g >>= fun _ => awaitExpected g env) w).ending := by
  obtain ⟨quotas, calls, appeared⟩ := awaitAvailable_quotas g env w
  rcases chain_cases (awaitAvailable env g) (fun _ => awaitExpected g env) w with
    ⟨done, ending, trace⟩ | ⟨undone, ending, trace⟩
  · obtain ⟨v, last, affirms⟩ := appeared done
    obtain ⟨rounds, others, follows⟩ :=
      awaitExpected_follows g enable env (awaitAvailable env g w).world given last affirms
    refine ⟨quotas, rounds, ?_, ?_⟩
    · rw [trace, Trace.calls_append, calls, others]
    · rw [ending]
      exact follows
  · refine ⟨quotas, [], ?_, ?_⟩
    · rw [trace, calls, List.flatten_nil, List.append_nil]
    · rw [ending]
      exact follows_of_undone g enable undone _

/-- A patch and what follows it keep to the protocol if what follows does. -/
theorem patch_changes {next : Action ω Unit} (after : ∀ w, ∃ quotas rounds,
      (next w).trace.calls = quotas.map (g.quotaLook, ·) ++ rounds.flatten ∧
        Follows g enable quotas rounds (next w).ending) : ∃ patches quotas rounds,
    ((patch env g enable >>= fun _ => next) w).trace.calls =
        patches.map (g.patchRequest enable, ·) ++ (quotas.map (g.quotaLook, ·) ++ rounds.flatten) ∧
      Changes g enable patches quotas rounds
        ((patch env g enable >>= fun _ => next) w).ending := by
  obtain ⟨patches, calls, tries⟩ := patch_tries g enable env w
  rcases chain_cases (patch env g enable) (fun _ => next) w with
    ⟨done, ending, trace⟩ | ⟨undone, ending, trace⟩
  · obtain ⟨quotas, rounds, others, follows⟩ := after (patch env g enable w).world
    have through := tries.through done
    refine ⟨patches, quotas, rounds, ?_, ?_⟩
    · rw [trace, Trace.calls_append, calls, others]
    · rw [ending]
      refine ⟨follows, tries.transient, fun f member refuses => ?_, fun _ => through,
        fun _ => through⟩
      -- A patch that went through was not refused.
      rw [tries.refused f member refuses] at done
      cases done
  · refine ⟨patches, [], [], ?_, ?_⟩
    · rw [trace, calls, List.map_nil, List.flatten_nil, List.append_nil, List.append_nil]
    · rw [ending]
      exact ⟨follows_of_undone g enable undone _, tries.transient, fun f member refuses =>
          ⟨tries.refused_last member refuses, rfl, rfl, tries.refused f member refuses⟩,
        fun looked => absurd rfl looked, fun done => absurd done undone⟩

/-- A change that goes wrong before the patch keeps to the protocol. -/
theorem changes_of_undone {ending : Ending Unit} (undone : ending ≠ .done ()) :
    Changes g enable [] [] [] ending :=
  ⟨follows_of_undone g enable undone [], nofun, nofun, fun looked => absurd rfl looked,
    fun done => absurd done undone⟩

theorem disable_protocol (blank : enable.isBlank = true) : ∃ nodes patches quotas rounds,
    (set env g enable w).trace.calls = g.phases enable nodes patches quotas rounds ∧
      Protocol g enable nodes patches quotas rounds (set env g enable w).ending := by
  have unfolded : set env g enable w =
      (patch env g enable >>= fun _ => awaitRemoved env g) w := by
    simp only [set, blank, if_true]
  obtain ⟨patches, quotas, rounds, calls, changes⟩ := patch_changes g enable env w
    (awaitRemoved_follows g enable env · blank)
  rw [unfolded]
  refine ⟨[], patches, quotas, rounds, ?_, changes, by rw [blank]; rfl, nofun, fun _ => .inl blank⟩
  rw [calls, phases, List.map_nil, List.nil_append, List.append_assoc]

theorem enable_protocol (given : enable.isBlank = false) : ∃ nodes patches quotas rounds,
    (set env g enable w).trace.calls = g.phases enable nodes patches quotas rounds ∧
      Protocol g enable nodes patches quotas rounds (set env g enable w).ending := by
  have unfolded : set env g enable w = (do
      if ← isSingleWorker env then Action.fail .singleWorker
      else patch env g enable >>= fun _ => awaitAvailable env g >>= fun _ => awaitExpected g env :
        Action ω Unit) w := by
    simp only [set, given, Bool.false_eq_true, if_false]
    rfl
  have once (reply : Reply) : [reply].length = if enable.isBlank then 0 else 1 := by
    rw [given]
    rfl
  rcases sent : env.reply nodeList w with ⟨reply, w₁⟩
  rcases Environment.list_call sent with ⟨items, rfl, listed⟩ | ⟨unlisted, f, failed⟩
  · have counted : isSingleWorker env w =
        ⟨.done (decide (items.length ≤ 1)), [.call nodeList (.ok (.arr items))], w₁⟩ := by
      rw [isSingleWorker, bind_done listed]
      rfl
    rw [unfolded, bind_done counted]
    by_cases few : items.length ≤ 1
    · simp only [few, decide_true, if_true, fail_apply]
      refine ⟨[.ok (.arr items)], [], [], [], rfl, changes_of_undone g enable nofun, once _, ?_,
        fun looked => absurd rfl looked⟩
      exact fun _ _ _ => ⟨rfl, rfl, rfl, rfl⟩
    · simp only [few, decide_false, Bool.false_eq_true, if_false]
      obtain ⟨patches, quotas, rounds, calls, changes⟩ := patch_changes g enable env w₁
        (awaitAvailable_follows g enable env · given)
      refine ⟨[.ok (.arr items)], patches, quotas, rounds, ?_, changes, once _, ?_,
        fun _ => .inr ⟨items, rfl, Nat.lt_of_not_le few⟩⟩
      · rw [Trace.calls_append, calls, phases, List.append_assoc, List.append_assoc]
        rfl
      · intro others member alone
        cases List.mem_singleton.mp member
        exact absurd alone few
  · have counted : isSingleWorker env w = ⟨.failed f, [.call nodeList reply], w₁⟩ := by
      rw [isSingleWorker, bind_failed failed]
      rfl
    rw [unfolded, bind_failed counted]
    refine ⟨[reply], [], [], [], rfl, changes_of_undone g enable nofun, once _, ?_,
      fun looked => absurd rfl looked⟩
    intro items member
    exact absurd (List.mem_singleton.mp member).symm (unlisted items)

/-- A change of the gate keeps to the protocol, whatever the cluster answers. -/
theorem set_protocol : ∃ nodes patches quotas rounds,
    (set env g enable w).trace.calls = g.phases enable nodes patches quotas rounds ∧
      Protocol g enable nodes patches quotas rounds (set env g enable w).ending := by
  cases blank : enable.isBlank with
  | true => exact disable_protocol g enable env w blank
  | false => exact enable_protocol g enable env w blank

end Gate

end MonitoringUpkeep
