import MonitoringUpkeep.Failure
import MonitoringUpkeep.Value.Path

/-!
# Access to parts of values

Reading and writing a named part of a value of unknown shape, with the complaint that arises where
the value is no object.
-/

namespace MonitoringUpkeep.Value

/-- The field of an object, null where it is absent. -/
def member : Value → String → Except Failure Value
  | .obj fs, key => .ok (Fields.getD fs key)
  | v, _ => .error (.noMember v "get")

def part : Value → String → Except Failure Value
  | .obj fs, key =>
    match Fields.get? fs key with
    | some v => .ok v
    | none => .error (.missingKey key)
  | .arr _, _ => .error (.misfit .nameIntoArray)
  | .str _, _ => .error (.misfit .nameIntoText)
  | v, _ => .error (.misfit (.noParts v.typeName))

def withPart : Value → String → Value → Except Failure Value
  | .obj fs, key, w => .ok (.obj (Fields.put fs key w))
  | .arr _, _, _ => .error (.misfit .nameIntoArray)
  | v, _, _ => .error (.misfit (.noWriting v.typeName))

/-- The items a value gives when it is gone through: those of an array, the names of an object, the
    characters of a text. -/
def items : Value → Except Failure (List Value)
  | .arr vs => .ok vs
  | .obj fs => .ok (fs.map fun f => .str f.1)
  | .str s => .ok (s.toList.map fun c => .str (String.singleton c))
  | v => .error (.misfit (.notIterable v.typeName))

/-- The metadata of an object, an empty object where it does not count as given. -/
def metadata (v : Value) : Except Failure Value := do
  return (← v.member "metadata").orElse (.obj [])

def assign : Value → List String → Value → Except Failure Value
  | _, [], _ => .error (.misfit .emptyPath)
  | .obj fs, key :: rest, w => .ok (.obj (Fields.assign fs key rest w))
  | v, [key], w => v.withPart key w
  | v, _ :: _ :: _, _ => .error (.noMember v "get")

def asKey : Value → Except Failure String
  | .str s => .ok s
  | v => .error (.misfit (.notAKey v.typeName))

/-- The pair that an item of a sequence of pairs stands for. -/
def asPair (position : Nat) (v : Value) : Except Failure (String × Value) :=
  match v.items with
  | .error _ => .error (.misfit (.notAPair position))
  | .ok [k, w] => do return (← k.asKey, w)
  | .ok vs => .error (.notTwo position vs.length)

/-- The fields that a sequence of pairs stands for, the last of equal names counting. -/
def ofPairs : Nat → List Value → Fields → Except Failure Fields
  | _, [], fs => .ok fs
  | n, v :: vs, fs => do
    let (k, w) ← v.asPair n
    ofPairs (n + 1) vs (Fields.put fs k w)

/-- The fields of an object, or of a sequence of pairs. -/
def toFields : Value → Except Failure Fields
  | .obj fs => .ok fs
  | v => do ofPairs 0 (← v.items) []

end MonitoringUpkeep.Value
