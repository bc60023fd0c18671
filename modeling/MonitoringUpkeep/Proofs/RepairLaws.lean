import MonitoringUpkeep.Proofs.Drift

/-!
# Laws of repair

A repair is a write at some places of an object, so it obeys the laws of such writes, whatever the
object holds: the repaired object has not drifted, an object that has not drifted comes out as it was,
an earlier repair leaves no trace in a later one, and all other places are left alone.
-/

namespace MonitoringUpkeep.Resource
open Value Fields

/-- What comes of the repair of an observed object. -/
structure Repairs (r : Resource) (owner : Owner) (observed healed : Value) : Prop where
  outcome : r.heal observed (r.desired owner) = .ok healed
  /-- the repaired object has not drifted -/
  inSync : r.differs healed (r.desired owner) = .ok false
  /-- an object that has not drifted comes out as it was -/
  kept : r.differs observed (r.desired owner) = .ok false → healed ≈ observed
  /-- an earlier repair, under any settings and owner, leaves no trace -/
  later : ∀ (r' : Resource) (owner' : Owner), r'.kind = r.kind → ∃ earlier after,
    r'.heal observed (r'.desired owner') = .ok earlier ∧
      r.heal earlier (r.desired owner) = .ok after ∧ after ≈ healed
  /-- a second repair changes nothing -/
  again : ∃ twice, r.heal healed (r.desired owner) = .ok twice ∧ twice ≈ healed
  /-- a place that neither leads to a facet nor lies inside one is left alone -/
  spared : ∀ path, (∀ p ∈ r.facets, ¬ path <+: p ∧ ¬ p <+: path) →
    healed.lookup path = observed.lookup path

variable {r r' : Resource} {fs : Fields}

/-- A repair of an object that was repaired before comes out as if it had not been. -/
theorem heal_restored (kind : r'.kind = r.kind) (owner owner' : Owner) (opened : MetadataOpen fs) :
    ∃ after, r.heal (.obj (r'.restored owner' fs)) (r.desired owner) = .ok after ∧
      after ≈ .obj (r.restored owner fs) :=
  ⟨_, heal_obj r owner (r'.restored_open owner' opened),
    obj_agrees (restored_restored kind owner owner' fs)⟩

/-- The repair of any object whose metadata are absent or an object obeys the laws. -/
theorem heal_lawful (r : Resource) (owner : Owner) (fs : Fields) (opened : MetadataOpen fs) :
    ∃ healed, Repairs r owner (.obj fs) healed := by
  refine ⟨.obj (r.restored owner fs), {
    outcome := heal_obj r owner opened
    inSync := differs_of_facets (r.restored_open owner opened) (r.lookup_restored owner fs)
    kept := fun asDesired => obj_agrees (restored_of_not_differs opened asDesired)
    later := ?_
    again := heal_restored rfl owner owner opened
    spared := ?_ }⟩
  · intro r' owner' kind
    obtain ⟨after, repaired, same⟩ := heal_restored kind owner owner' opened
    exact ⟨_, after, heal_obj r' owner' opened, repaired, same⟩
  · intro path beside
    apply lookup_copied_of_apart
    intro p member
    exact (apart_iff.mpr (beside p member)).symm

/-- A service with a number as its specification and nothing else. -/
theorem heal_lawful_numeric :
    let r : Resource := ⟨.service, { space := "kubevirt" }⟩
    let owner : Owner := { name := "hco-operator", space := "kubevirt", uid := "1" }
    let observed : Fields := [("spec", .int 7), ("kind", "Service")]
    MetadataOpen observed ∧ ∃ healed, Repairs r owner (.obj observed) healed := by
  intro r owner observed
  have opened : MetadataOpen observed := nofun
  exact ⟨opened, heal_lawful r owner observed opened⟩

end MonitoringUpkeep.Resource
