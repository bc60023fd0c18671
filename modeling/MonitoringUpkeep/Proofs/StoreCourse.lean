import MonitoringUpkeep.Proofs.OperatorFrame

/-!
# The course of a store

Whatever happens to a store happens by operations, each of which is carried out or fails before it takes
effect: objects are put and deleted by any party, and the program sends its requests. There are five
things that an operation can do, and `Effect` says which. Passes and changes of the gate are sequences of
operations and nothing else.
-/

namespace MonitoringUpkeep

namespace Store
open Value Fields

/-- An operation on a store. -/
inductive Operation
  /-- an object is put there, whatever stands in its place -/
  | put (kind : Kind) (object : Value)
  /-- an object is deleted, if it is there -/
  | delete (kind : Kind) (name space : Value)
  /-- the program asks for something -/
  | call (request : Request)

namespace Operation

/-- The reply to an operation, null where there is nothing to tell, and the store after it. -/
def run (s : Store) : Operation → Reply × Store
  | .put kind object => ((s.put kind object).1.map fun _ => .null, (s.put kind object).2)
  | .delete kind name space =>
    ((s.delete kind name space).1.map fun _ => .null, (s.delete kind name space).2)
  | .call request => s.reply request

/-- Of patches only those of the gate are admitted, since a patch can be of any place. -/
def Admitted : Operation → Prop
  | .call (.patch kind _ operations _) =>
    kind = .hyperConverged ∧ ∃ enable, operations = Gate.operations enable
  | _ => True

end Operation

/-- The object carries the stamp of a number. -/
def Carries (v : Value) (n : Nat) : Prop := v.lookup stampPath = .str (toString n)

/-- What an operation does to a store. -/
inductive Effect (s : Store) : Operation → Reply → Store → Prop
  /-- nothing -/
  | rests (operation : Operation) (reply : Reply) : Effect s operation reply s
  /-- an object that has no key, or cannot be stamped, is not put there, but uses up a number -/
  | wastes (kind : Kind) (object : Value) (f : Failure) :
      Effect s (.put kind object) (.error f) { s with version := s.version + 1 }
  /-- objects are taken away -/
  | removes (operation : Operation) (v : Value) (kept : StoreKey × Value → Bool) :
      Effect s operation (.ok v) { s with entries := s.entries.filter kept }
  /-- an object is changed in its place, but for its metadata -/
  | rewrites (operation : Operation) (u : Value) {key : StoreKey} {v v' : Value}
      (found : s.find? key = some v) (same : v'.lookup ["metadata"] = v.lookup ["metadata"]) :
      Effect s operation (.ok u) (s.write key v')
  /-- an object is written under its key with the stamp of the next number -/
  | renews (operation : Operation) (u : Value) {kind : Kind} {key : StoreKey} {v : Value}
      (carries : Carries v (s.version + 1)) (given : StoreKey.ofObject kind v = .ok key) :
      Effect s operation (.ok u) ({ s with version := s.version + 1 }.write key v)

/-! ## The effects of operations -/

theorem carries_of_stamped {v v' : Value} {n : Nat} (stamped : stamped v n = .ok v') :
    Carries v' n := by
  cases v with
  | obj fs =>
    simp only [Store.stamped, bind_ok_iff, pure_ok_iff] at stamped
    obtain ⟨m, within, rfl⟩ := stamped
    cases held : (get? fs "metadata").getD (.obj []) with
    | obj ms =>
      rw [held] at within
      cases within
      simp [Carries, stampPath, lookup]
    | _ =>
      rw [held] at within
      cases within
  | _ => cases stamped

theorem put_effect (s : Store) (kind : Kind) (object : Value) :
    Effect s (.put kind object) (Operation.run s (.put kind object)).1
      (Operation.run s (.put kind object)).2 := by
  simp only [Operation.run, Store.put]
  cases stamped : Store.stamped object (s.version + 1) with
  | error f => exact .wastes kind object f
  | ok v =>
    dsimp only
    cases given : StoreKey.ofObject kind v with
    | error f => exact .wastes kind object f
    | ok key => exact .renews _ _ (carries_of_stamped stamped) given

theorem delete_effect (s : Store) (kind : Kind) (name space : Value) :
    Effect s (.delete kind name space) (Operation.run s (.delete kind name space)).1
      (Operation.run s (.delete kind name space)).2 := by
  simp only [Operation.run, Store.delete]
  cases StoreKey.of kind name space with
  | error f => exact .rests _ _
  | ok key => exact .removes _ _ _

/-- A whole write that goes through gives the object the next number, and one that is refused does
    nothing. -/
theorem writeWhole_effect (s : Store) (operation : Operation) (kind : Kind) (body : Value)
    (present : Bool) (refusal : Failure) : Effect s operation
      (s.writeWhole kind body present refusal).1 (s.writeWhole kind body present refusal).2 := by
  cases given : StoreKey.ofObject kind body with
  | error f =>
    simp only [writeWhole, given]
    exact .rests _ _
  | ok key =>
    obtain ⟨fs, _, _, rfl, _⟩ := StoreKey.ofObject_eq_ok.mp given
    rcases s.writeWhole_obj given present refusal with ⟨-, v, written⟩ | ⟨-, refused⟩
    · rw [written]
      refine .renews _ _ (lookup_writeAt_self fs (List.cons_ne_nil _ _) _)
        (StoreKey.ofObject_writeAt given ?_ ?_ _)
      · simp [stampPath, Apart]
      · simp [stampPath, Apart]
    · rw [refused]
      exact .rests _ _

theorem updateStatus_effect (s : Store) (operation : Operation) (kind : Kind) (body : Value) :
    Effect s operation (s.updateStatus kind body).1 (s.updateStatus kind body).2 := by
  unfold updateStatus
  split
  · exact .rests _ _
  · split
    · exact .rests _ _
    · rename_i v found
      split
      · exact .rests _ _
      · rename_i v' written
        obtain ⟨status, -, placed⟩ := bind_ok_iff.mp written
        cases v with
        | obj fs =>
          cases placed
          refine .rewrites _ _ found ?_
          simp only [lookup, getD_put_of_ne fs (show "metadata" ≠ "status" by decide)]
        | _ => cases placed

/-- The patch of the gate leaves the metadata of the cluster object alone. -/
theorem patch_effect (s : Store) (operation : Operation) (name enable space : Value) :
    Effect s operation (s.patch .hyperConverged name (Gate.operations enable) space).1
      (s.patch .hyperConverged name (Gate.operations enable) space).2 := by
  cases given : StoreKey.of .hyperConverged name space with
  | error f =>
    simp only [Store.patch, given]
    exact .rests _ _
  | ok key =>
    rcases Gate.patch_cases s given enable with ⟨f, failed⟩ | ⟨fs, found, -, written⟩
    · rw [failed]
      exact .rests _ _
    · have apart : Apart Gate.path ["metadata"] := .inl (by decide)
      rw [written]
      exact .rewrites _ _ found (lookup_writeAt_of_apart apart fs enable)

/-- What an operation that is admitted does, by the way it is carried out. -/
theorem Operation.run_effect (s : Store) {operation : Operation} (admitted : operation.Admitted) :
    Effect s operation (operation.run s).1 (operation.run s).2 := by
  cases operation with
  | put kind object => exact put_effect s kind object
  | delete kind name space => exact delete_effect s kind name space
  | call request =>
    cases request with
    | get | list => exact .rests _ _
    | create kind body => exact writeWhole_effect s _ kind body _ _
    | update kind body => exact writeWhole_effect s _ kind body _ _
    | updateStatus kind body => exact updateStatus_effect s _ kind body
    | patch kind name operations space =>
      obtain ⟨rfl, enable, rfl⟩ := admitted
      exact patch_effect s _ name enable space

/-! ## Courses -/

/-- An operation on a store with its reply and the store after it: it is carried out, or it fails before
    it takes effect. -/
inductive Handles (s : Store) : Operation → Reply → Store → Prop
  | carriedOut {operation} (admitted : operation.Admitted) :
      Handles s operation (operation.run s).1 (operation.run s).2
  | hindered {operation} (admitted : operation.Admitted) (f : Failure) :
      Handles s operation (.error f) s

theorem Handles.effect {s s' : Store} {operation : Operation} {reply : Reply}
    (handles : Handles s operation reply s') : Effect s operation reply s' := by
  cases handles with
  | carriedOut admitted => exact operation.run_effect s admitted
  | hindered admitted f => exact .rests _ _

/-- A store becomes another one by operations, one after the other, each with its reply. -/
inductive Proceeds : Store → List (Operation × Reply) → Store → Prop
  | nil (s : Store) : Proceeds s [] s
  | cons {s s₁ s' operation reply done} (first : Handles s operation reply s₁)
      (others : Proceeds s₁ done s') : Proceeds s ((operation, reply) :: done) s'

namespace Proceeds

variable {s s₁ s' : Store} {done later : List (Operation × Reply)}

theorem single {operation : Operation} {reply : Reply} (handles : Handles s operation reply s') :
    Proceeds s [(operation, reply)] s' := .cons handles (.nil s')

theorem append (first : Proceeds s done s₁) (others : Proceeds s₁ later s') :
    Proceeds s (done ++ later) s' := by
  induction first with
  | nil => exact others
  | cons handles _ ih => exact .cons handles (ih others)

/-- A course of operations goes through a store after the first of them. -/
theorem split (course : Proceeds s (done ++ later) s') : ∃ s₁, Proceeds s done s₁ ∧ Proceeds s₁ later s' := by
  induction done generalizing s with
  | nil => exact ⟨s, .nil s, course⟩
  | cons first done ih =>
    cases course with
    | cons handles others =>
      obtain ⟨s₁, before, after⟩ := ih others
      exact ⟨s₁, .cons handles before, after⟩

end Proceeds

end Store

/-- The requests of a trace as operations, each with its reply. -/
def Trace.operations (t : Trace) : List (Store.Operation × Reply) :=
  t.calls.map fun c => (.call c.1, c.2)

namespace Trace

@[simp] theorem operations_append (t u : Trace) : operations (t ++ u) = operations t ++ operations u := by
  simp only [operations, calls_append, List.map_append]

@[simp] theorem operations_effects (t : Trace) : operations (effects t) = operations t := by
  simp only [operations, calls_effects]

end Trace

section Runs
open Store

variable {ω : Type} {env : Environment ω} {store : ω → Store} {w w' : ω} {t : Trace}

/-- A request is an operation that the store handles. -/
theorem Environment.Falters.handles (falters : env.Falters store) {request : Request} {reply : Reply}
    (admitted : (Operation.call request).Admitted) (sent : env.reply request w = (reply, w')) :
    Handles (store w) (.call request) reply (store w') := by
  rcases falters.reply request w with answered | ⟨f, failed, same⟩
  · rw [sent] at answered
    have carried : Handles (store w) (.call request) ((store w).reply request).1
        ((store w).reply request).2 := .carriedOut admitted
    rwa [answered] at carried
  · rw [sent] at failed same
    obtain rfl : reply = .error f := failed
    obtain same : store w' = store w := same
    rw [same]
    exact .hindered admitted f

namespace Pass

variable {recorder : Recorder} {r : Resource} {ending : Ending Unit}

/-- The write that is due after a look is admitted. -/
theorem admitted_of_due {owner : Owner} {reply : Reply} {request : Request}
    (due : r.due owner reply = .ok (some request)) : (Operation.call request).Admitted := by
  rcases r.due_writes due with ⟨body, rfl⟩ | ⟨body, rfl⟩ <;> trivial

theorem Visit.proceeds (falters : env.Falters store) (visit : Visit env recorder r w ending t w') :
    Proceeds (store w) t.operations (store w') := by
  cases visit with
  | unseen looked due | kept looked due => exact .single (falters.handles trivial looked)
  | unwritten looked due sent =>
    exact .cons (falters.handles trivial looked)
      (.single (falters.handles (admitted_of_due due) sent))
  | written looked due sent delivered | unreported looked due sent delivered =>
    rw [falters.reported delivered]
    exact .cons (falters.handles trivial looked)
      (.single (falters.handles (admitted_of_due due) sent))

theorem Walk.proceeds (falters : env.Falters store) {rs : List Resource}
    (walk : Walk env recorder rs w ending t w') : Proceeds (store w) t.operations (store w') := by
  induction walk with
  | nil => exact .nil _
  | step first others ih =>
    rw [Trace.operations_append]
    exact (first.proceeds falters).append ih
  | stop first => exact first.proceeds falters

end Pass

namespace Operator

variable {o : Operator}

theorem Survey.proceeds (falters : env.Falters store) {ending : Ending (Option StatusRequest)}
    (survey : Survey env o w ending t w') : Proceeds (store w) t.operations (store w') := by
  cases survey with
  | unread looked | absent looked | uncompared looked | kept looked =>
    exact .single (falters.handles trivial looked)
  | refused looked changed sent | rewritten looked changed sent =>
    exact .cons (falters.handles trivial looked) (.single (falters.handles trivial sent))

/-- A pass is a course of its requests, however it ends. -/
theorem pass_proceeds (falters : env.Falters store) (o : Operator) (w : ω) :
    Proceeds (store w) (pass env o w).trace.operations (store (pass env o w).world) := by
  rw [← Trace.operations_effects]
  rcases pass_halves env o w with ⟨f, -, walk⟩ | ⟨t, w₁, u, walk, survey, effects⟩
  · exact walk.proceeds falters
  · rw [effects, Trace.operations_append]
    exact (walk.proceeds falters).append (survey.proceeds falters)

end Operator

namespace Gate

theorem Asks.admitted {g : Gate} {enable : Value} {request : Request} (asks : g.Asks enable request) :
    (Operation.call request).Admitted := by
  cases asks with
  | nodes => trivial
  | patch => exact ⟨rfl, enable, rfl⟩
  | watch watches => cases watches <;> trivial

/-- What is done to change the gate is a course of its requests. -/
theorem steps_proceed (alone : env.Alone store) (g : Gate) (enable : Value) :
    env.Steps (g.Asks enable) (fun w t w' => Proceeds (store w) t.operations (store w'))
      fun _ => True where
  rest w := .nil _
  chain first later := by
    rw [Trace.operations_append]
    exact first.append later
  call request asks w := .single (alone.handles asks.admitted rfl)
  clock w := by
    rw [alone.now w]
    exact .nil _
  wait seconds w := by
    rw [alone.wait seconds w]
    exact .nil _
  log _ _ := .nil _
  measured _ _ _ := .nil _
  refused _ _ _ _ _ := trivial
  broken _ _ _ _ := trivial
  own _ _ := trivial

/-- A change of the gate is a course of its requests, however it ends. -/
theorem set_proceeds (alone : env.Alone store) (g : Gate) (enable : Value) (w : ω) :
    Proceeds (store w) (g.set env enable w).trace.operations (store (g.set env enable w).world) :=
  (g.keeps_set (steps_proceed alone g enable) (fun _ => trivial) (fun _ asks => asks) w).1

end Gate

end Runs

end MonitoringUpkeep
