import MonitoringUpkeep.Resource

/-!
# Drift and repair

An observed object has drifted when its labels, its owners or the content that belongs to the
program differ from the desired state. The repair overwrites these three and leaves all else.
-/

namespace MonitoringUpkeep.Resource

/-- Whether the content below the owned paths differs. -/
def contentDiffers (r : Resource) (observed desired : Value) : Bool :=
  r.ownedPaths.any fun path => !decide (observed.lookup path ≈ desired.lookup path)

/-- Whether the labels, the owners or the content differ. What is absent differs from any desired
    value. -/
def differs (r : Resource) (observed desired : Value) : Except Failure Bool := do
  let found ← observed.metadata
  let wanted ← desired.part "metadata"
  if ¬ (← found.member "labels") ≈ (← wanted.part "labels") then
    return true
  else if ¬ (← found.member "ownerReferences") ≈ (← wanted.part "ownerReferences") then
    return true
  else return r.contentDiffers observed desired

/-- Writes the desired content below one owned path. -/
def overwrite (desired : Value) (fs : Fields) : List String → Fields
  | [] => fs
  | key :: rest => Fields.assign fs key rest (desired.lookup (key :: rest))

/-- The observed object with labels, owners and owned content replaced by the desired ones. -/
def heal (r : Resource) (observed desired : Value) : Except Failure Value := do
  let fs ← observed.toFields
  let metadata := (Fields.get? fs "metadata").getD (.obj [])
  let metadata ← metadata.withPart "labels" (← (← desired.part "metadata").part "labels")
  let metadata ← metadata.withPart "ownerReferences"
    (← (← desired.part "metadata").part "ownerReferences")
  return .obj (r.ownedPaths.foldl (overwrite desired) (Fields.put fs "metadata" metadata))

end MonitoringUpkeep.Resource
