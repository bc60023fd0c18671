import MonitoringUpkeep.Action.Environment
import MonitoringUpkeep.Store.Basic
import MonitoringUpkeep.Value.Amount
import MonitoringUpkeep.Value.Edit

/-!
# A rehearsed world

A world in which the program can be run from beginning to end without a cluster: a store in memory,
a clock that only moves when it is read or waited on, and a script of what other parties do and of
the requests that fail. Waits do not take time outside.
-/

namespace MonitoringUpkeep.Rehearsal

/-- Which requests a rule of the script is about, and how often it applies. -/
structure Pattern where
  /-- the name of what is asked for; none is any -/
  verb : Option String := none
  /-- the name of the kind of object; none is any -/
  kind : Option Value := none
  /-- the name of the object; none is any, and null is that of a list -/
  name : Option Value := none
  /-- how many matching requests are let through first -/
  skip : Int := 0
  /-- how many matching requests it applies to after that; negative is all -/
  times : Int := 1
  /-- whether it applies after the request has taken effect, and not before -/
  after : Bool := false

/-- What some other party does; kinds are given by their names. -/
inductive Deed where
  | put (kind object : Value)
  | delete (kind name space : Value)
  | edit (kind name space : Value) (edits : List Edit)
  /-- adds a rule to the script: deeds to be done, and a failure of the request -/
  | rule (pattern : Pattern) (deeds : List Deed) (failure : Option Failure)
  | clearRules
  | stop
  | unstop
  /-- sends a signal, which has to be one that the program listens to -/
  | signal (number : Value)

/-- A rule of the script: what is done around matching requests, and how they fail. -/
structure Rule where
  pattern : Pattern
  deeds : List Deed := []
  failure : Option Failure := none

/-- The state of the world and what is left of the script. -/
structure World where
  store : Store := {}
  /-- the rules with their numbers -/
  rules : List (Nat × Rule) := []
  /-- the number of the next rule -/
  nextRule : Nat := 0
  time : Binary64 := .finite 0
  /-- by how much the clock moves when it is read -/
  step : Binary64 := .finite 0
  stopped : Bool := false
  /-- the number of waits so far -/
  waits : Nat := 0
  /-- from which wait on the program is told to stop -/
  maxWaits : Int := 2000
  /-- what is done during a wait, by its number -/
  onWait : List (Nat × List Deed) := []
  /-- the random numbers still to be drawn; afterwards all are one half -/
  chances : List Value := []
  /-- how the next events fare -/
  deliveries : List (Option Failure) := []
  /-- the number of requests, events and waits so far -/
  steps : Nat := 0
  /-- the number of looks at a scripted condition so far -/
  looks : Nat := 0
  /-- the signals that the program listens to -/
  heard : List Int := []
  /-- the signals sent to the program, each with the number of steps before it -/
  signals : List (Nat × Int) := []

/-- What a look at a scripted condition finds. -/
inductive Look where
  | finds (holds : Bool)
  | fails (f : Failure)
  /-- the program is told to stop, and the condition does not hold -/
  | stops

namespace World

/-- A scripted condition; the last look is repeated. -/
def look (script : List Look) : Action World Bool := fun w =>
  let found := script[min w.looks (script.length - 1)]?
  let w := { w with looks := w.looks + 1 }
  match found with
  | some (.finds holds) => ⟨.done holds, [], w⟩
  | some (.fails f) => ⟨.failed f, [], w⟩
  | some .stops => ⟨.done false, [], { w with stopped := true }⟩
  | none => ⟨.done false, [], w⟩

def addRule (w : World) (r : Rule) : World :=
  { w with rules := w.rules ++ [(w.nextRule, r)], nextRule := w.nextRule + 1 }

/-- The world with its store changed at a kind, and how that ended. -/
def withStore (w : World) (kind : Value) (change : Kind → Except Failure Unit × Store) :
    Except Failure Unit × World :=
  match Kind.ofValue kind with
  | .error f => (.error f, w)
  | .ok kind =>
    let (ending, store) := change kind
    (ending, { w with store })

def send (w : World) (signal : Value) : Except Failure Unit × World :=
  match w.heard.find? fun n => decide (signal ≈ .int n) with
  | some n => (.ok (), { w with stopped := true, signals := w.signals ++ [(w.steps, n)] })
  | none => (.error (.missingKey signal), w)

def apply (w : World) : Deed → Except Failure Unit × World
  | .put kind object => w.withStore kind fun kind => w.store.put kind object
  | .delete kind name space => w.withStore kind fun kind => w.store.delete kind name space
  | .edit kind name space edits =>
    w.withStore kind fun kind => w.store.modify kind name space (Edit.applyAll edits)
  | .rule pattern deeds failure => (.ok (), w.addRule ⟨pattern, deeds, failure⟩)
  | .clearRules => (.ok (), { w with rules := [] })
  | .stop => (.ok (), { w with stopped := true })
  | .unstop => (.ok (), { w with stopped := false })
  | .signal number => w.send number

/-- What deeds do one after the other, up to the first that fails. -/
def applyAll (w : World) : List Deed → Except Failure Unit × World
  | [] => (.ok (), w)
  | d :: rest =>
    match w.apply d with
    | (.ok (), w) => applyAll w rest
    | (.error f, w) => (.error f, w)

/-- Whether a rule is about a request for something, of a kind, with a name. -/
def matchesRequest (p : Pattern) (verb : String) (kind : Kind) (name : Value) : Bool :=
  p.verb.all (· = verb) && p.kind.all (fun k => decide (k ≈ Value.str kind.name))
    && p.name.all fun n => decide (n ≈ name)

def replaceRule (w : World) (number : Nat) (r : Rule) : World :=
  { w with rules := w.rules.map fun e => if e.1 = number then (number, r) else e }

def fire (w : World) (number : Nat) (r : Rule) : Except Failure Unit × World :=
  let p := r.pattern
  if 0 < p.skip then
    (.ok (), w.replaceRule number { r with pattern := { p with skip := p.skip - 1 } })
  else if p.times = 0 then (.ok (), w)
  else
    let w := w.replaceRule number { r with pattern := { p with times := p.times - 1 } }
    match w.applyAll r.deeds, r.failure with
    | (.ok (), w), some f => (.error f, w)
    | outcome, _ => outcome

def runRules (after : Bool) (verb : String) (kind : Kind) (name : Value) :
    List (Nat × Rule) → World → Except Failure Unit × World
  | [], w => (.ok (), w)
  | (number, r) :: rest, w =>
    if r.pattern.after = after && matchesRequest r.pattern verb kind name then
      match w.fire number r with
      | (.ok (), w) => runRules after verb kind name rest w
      | (.error f, w) => (.error f, w)
    else runRules after verb kind name rest w

/-- The name and the namespace that a request is about, null where it gives none. -/
def subject : Request → Value × Value
  | .get _ name space => (name, space)
  | .patch _ name _ space => (name, space)
  | .list _ space _ => (.null, space)
  | .create _ body | .update _ body | .updateStatus _ body =>
    (body.lookup ["metadata", "name"], body.lookup ["metadata", "namespace"])

/-- The reply to a request: the store's, unless the script has it fail before or after. -/
def reply (request : Request) (w : World) : Reply × World :=
  let w := { w with steps := w.steps + 1 }
  let name := (subject request).1
  match runRules false request.verb request.kind name w.rules w with
  | (.error f, w) => (.error f, w)
  | (.ok (), w) =>
    let (answer, store) := w.store.reply request
    let w := { w with store }
    match answer with
    | .error f => (.error f, w)
    | .ok v =>
      match runRules true request.verb request.kind name w.rules w with
      | (.error f, w) => (.error f, w)
      | (.ok (), w) => (.ok v, w)

/-- The time after a wait; one of a negative length takes none. -/
def timeAfter (time : Binary64) (seconds : Value) : Except Failure Binary64 := do
  let length ← if ← Value.isBelow (.int 0) seconds then seconds.toReal Binary64.ofRat
    else pure (.finite 0)
  return time.add Binary64.ofRat length

/-- A wait: the clock moves on, the script is followed, and the stop token is set when there have
    been enough waits. -/
def wait (seconds : Value) (w : World) : Except Failure Bool × World :=
  let n := w.waits + 1
  let w := { w with waits := n, steps := w.steps + 1 }
  match timeAfter w.time seconds with
  | .error f => (.error f, w)
  | .ok time =>
    match { w with time }.applyAll ((w.onWait.lookup n).getD []) with
    | (.error f, w) => (.error f, w)
    | (.ok (), w) =>
      let w := { w with stopped := w.stopped || decide (w.maxWaits ≤ n) }
      (.ok w.stopped, w)

/-- A reading of the clock, which moves before it is read. -/
def now (w : World) : Binary64 × World :=
  let time := w.time.add Binary64.ofRat w.step
  (time, { w with time })

def draw (w : World) : Value × World :=
  match w.chances with
  | [] => (.ofRat (mkRat 1 2), w)
  | r :: rest => (r, { w with chances := rest })

def deliver (w : World) : Except Failure Unit × World :=
  let w := { w with steps := w.steps + 1 }
  match w.deliveries with
  | [] => (.ok (), w)
  | none :: rest => (.ok (), { w with deliveries := rest })
  | some f :: rest => (.error f, { w with deliveries := rest })

/-- How the world answers the program. Times are rounded to the 64-bit format; a loop is followed
    beyond the wait at which the program is told to stop. -/
def environment (w : World) : Environment World where
  reply := reply
  deliver := fun _ _ => deliver
  now := now
  wait := wait
  stopped := World.stopped
  draw := draw
  listen := fun n w => { w with heard := w.heard ++ [n] }
  round := Binary64.ofRat
  rounds := w.maxWaits.toNat + 2

end World

end MonitoringUpkeep.Rehearsal
