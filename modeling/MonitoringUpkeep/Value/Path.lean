import MonitoringUpkeep.Value.Basic

/-!
# Key paths

A key path names a place inside nested objects. Reading at a place that does not exist gives null;
writing there creates the objects on the way, in place of whatever else stands there.
-/

namespace MonitoringUpkeep

namespace Value

/-- The value at a key path, null where the path leaves the objects. -/
def lookup : List String → Value → Value
  | [], v => v
  | key :: rest, .obj fields => lookup rest (Fields.getD fields key)
  | _ :: _, _ => .null

end Value

namespace Fields

/-- The fields a value contributes as the place of further keys: its own, or none. -/
def inside (v : Value) : Fields := v.fields?.getD []

/-- Writes a value at the non-empty key path `key :: rest`. -/
def assign (fs : Fields) (key : String) : List String → Value → Fields
  | [], v => put fs key v
  | next :: rest, v => put fs key (.obj (assign (inside (getD fs key)) next rest v))

end Fields

end MonitoringUpkeep
