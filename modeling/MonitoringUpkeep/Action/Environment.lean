import MonitoringUpkeep.Action.Basic

/-!
# The environment of the program

What the program asks of the world: replies of the cluster, a clock, waiting, chance, and the token
by which it is told to stop. Nothing is assumed about the answers: two requests that look the same
may be answered differently.
-/

namespace MonitoringUpkeep

/-- How a world answers the program. -/
structure Environment (ω : Type) where
  /-- the reply of the store of cluster objects -/
  reply : Request → ω → Reply × ω
  /-- the reply of the cluster to an event in a namespace, given as its body -/
  deliver : Value → Value → ω → Except Failure Unit × ω
  /-- the reading of the clock, in seconds -/
  now : ω → Binary64 × ω
  /-- a wait for some seconds, which ends early when the stop token is set; the answer is whether
      the token is set at its end -/
  wait : Value → ω → Except Failure Bool × ω
  /-- whether the stop token is set -/
  stopped : ω → Bool
  /-- a random number between zero and one -/
  draw : ω → Value × ω
  /-- the program asks to be told of a signal -/
  listen : Int → ω → ω := fun _ w => w
  /-- the rounding of sums and products of times; without one they are exact -/
  round : Rat → Binary64 := .finite
  /-- the number of rounds for which a loop is followed -/
  rounds : Nat

namespace Environment

variable {ω : Type} (env : Environment ω)

def send (request : Request) : Action ω Value := fun w =>
  match env.reply request w with
  | (.ok v, w) => ⟨.done v, [.call request (.ok v)], w⟩
  | (.error f, w) => ⟨.failed f, [.call request (.error f)], w⟩

def get (kind : Kind) (name : Value) (space : Value := .null) : Action ω Value :=
  env.send (.get kind name space)

def list (kind : Kind) (space selector : Value) : Action ω (List Value) := do
  match ← env.send (.list kind space selector) with
  | .arr items => return items
  | other => Action.fail (.misfit (.notIterable other.typeName))

def clock : Action ω Binary64 := fun w =>
  let (t, w) := env.now w
  ⟨.done t, [], w⟩

/-- Waits, and ends with whether the program is to stop. -/
def sleep (seconds : Value) : Action ω Bool := fun w =>
  match env.wait seconds w with
  | (.ok b, w) => ⟨.done b, [.wait seconds], w⟩
  | (.error f, w) => ⟨.failed f, [.wait seconds], w⟩

def isStopped : Action ω Bool := fun w => ⟨.done (env.stopped w), [], w⟩

def random : Action ω Value := fun w =>
  let (r, w) := env.draw w
  ⟨.done r, [], w⟩

def handle (signal : Int) : Action ω Unit := fun w =>
  ⟨.done (), [.milestone (.handling signal)], env.listen signal w⟩

end Environment

end MonitoringUpkeep
