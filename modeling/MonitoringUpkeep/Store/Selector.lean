import MonitoringUpkeep.Text.Blank
import MonitoringUpkeep.Value.Access

/-!
# Label selectors

A selector is a list of clauses with commas between them, all of which have to hold: a label has to
have a value, or just has to be there.
-/

namespace MonitoringUpkeep.Selector

def splitOn (separator : Char) : List Char → List (List Char)
  | [] => [[]]
  | c :: rest =>
    if c = separator then [] :: splitOn separator rest
    else
      match splitOn separator rest with
      | part :: parts => (c :: part) :: parts
      | [] => [[c]]

def trimmed (cs : List Char) : String := String.ofList (Text.stripChars Text.isBlank cs)

/-- What a clause asks for. -/
inductive Clause where
  | hasValue (label value : String)
  | isThere (label : String)

/-- Reads a clause; an empty one asks for nothing. -/
def clause? (cs : List Char) : Option Clause :=
  let cs := Text.stripChars Text.isBlank cs
  if cs.isEmpty then none
  else if cs.contains '=' then
    let label := cs.takeWhile (· != '=')
    some (.hasValue (trimmed label) (trimmed (cs.drop (label.length + 1))))
  else some (.isThere (String.ofList cs))

def clauses (selector : String) : List Clause := (splitOn ',' selector.toList).filterMap clause?

def occursIn (part : List Char) : List Char → Bool
  | [] => part.isEmpty
  | c :: rest => part.isPrefixOf (c :: rest) || occursIn part rest

def Clause.holds (labels : Value) : Clause → Except Failure Bool
  | .hasValue label value => do return decide ((← labels.member label) ≈ .str value)
  | .isThere label =>
    match labels with
    | .obj fs => .ok (Fields.has fs label)
    | .arr items => .ok (items.any fun v => decide (v ≈ .str label))
    | .str s => .ok (occursIn label.toList s.toList)
    | v => .error (.misfit (.noMembership v.typeName))

/-- Whether labels have what all clauses ask for, looked at one after the other. -/
def allHold (labels : Value) : List Clause → Except Failure Bool
  | [] => return true
  | c :: rest => do if ← c.holds labels then allHold labels rest else return false

def accepts (selector labels : Value) : Except Failure Bool :=
  match selector with
  | .str s => allHold labels (clauses s)
  | v => .error (.noMember v "split")

end MonitoringUpkeep.Selector
