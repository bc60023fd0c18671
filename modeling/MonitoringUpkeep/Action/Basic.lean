import MonitoringUpkeep.Trace

/-!
# Actions

An action runs in a world and ends with a value, with a failure, or not at all within the number of
rounds that its loops are followed. What it did on the way is its trace. Actions are chained, and a
failure of one can be inspected by the next.
-/

namespace MonitoringUpkeep

/-- How an action ends. -/
inductive Ending (α : Type) where
  | done (a : α)
  | failed (f : Failure)
  /-- the rounds of a loop were used up -/
  | unfinished

/-- What comes of an action: how it ends, what it did, and the world it leaves. -/
structure Outcome (ω α : Type) where
  ending : Ending α
  trace : Trace
  world : ω

def Action (ω α : Type) : Type := ω → Outcome ω α

namespace Action

variable {ω α β : Type}

protected def pure (a : α) : Action ω α := fun w => ⟨.done a, [], w⟩

/-- Does one action and then, if it ended with a value, another one. -/
protected def bind (x : Action ω α) (f : α → Action ω β) : Action ω β := fun w =>
  match x w with
  | ⟨.done a, t, w⟩ =>
    let next := f a w
    { next with trace := t ++ next.trace }
  | ⟨.failed e, t, w⟩ => ⟨.failed e, t, w⟩
  | ⟨.unfinished, t, w⟩ => ⟨.unfinished, t, w⟩

instance : Monad (Action ω) where
  pure := Action.pure
  bind := Action.bind

def fail (f : Failure) : Action ω α := fun w => ⟨.failed f, [], w⟩

def unfinished : Action ω α := fun w => ⟨.unfinished, [], w⟩

def ofExcept : Except Failure α → Action ω α
  | .ok a => pure a
  | .error f => fail f

/-- Does an action and ends with its value or its failure. -/
def attempt (x : Action ω α) : Action ω (Except Failure α) := fun w =>
  match x w with
  | ⟨.done a, t, w⟩ => ⟨.done (.ok a), t, w⟩
  | ⟨.failed f, t, w⟩ => ⟨.done (.error f), t, w⟩
  | ⟨.unfinished, t, w⟩ => ⟨.unfinished, t, w⟩

/-- Lets an action go: what comes after it goes on however it ends, and even where it does not. -/
def detach (x : Action ω α) : Action ω Unit := fun w =>
  let ⟨_, t, w⟩ := x w
  ⟨.done (), t, w⟩

def note (entry : Entry) : Action ω Unit := fun w => ⟨.done (), [entry], w⟩

def log (level : Int) (logger message : String) (failure : Option Failure := none) :
    Action ω Unit :=
  note (.log ⟨level, logger, message, failure⟩)

def count (counter : Counter) : Action ω Unit := note (.count counter)

end Action

end MonitoringUpkeep
