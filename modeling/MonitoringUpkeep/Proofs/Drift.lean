import MonitoringUpkeep.Drift
import MonitoringUpkeep.Proofs.KeyPath

/-!
# The facets of a managed object

What a repair writes are the facets of a managed object: its labels, its owners and the content below
its owned paths. They lie at key paths that part from each other, a drift is a difference at one of
them, and the desired state is the bare object with all of them written into it. That a repaired
object is as desired, that a repair of one as desired changes nothing, and that of two repairs only
the last counts, follow from the laws of writing at key paths.
-/

namespace MonitoringUpkeep

namespace Fields
open Value

/-- Fields with what stands in a source below some key paths written over them. -/
def copied (source : Value) (paths : List (List String)) (fs : Fields) : Fields :=
  paths.foldl (Resource.overwrite source) fs

theorem overwrite_eq (source : Value) (fs : Fields) (path : List String) :
    Resource.overwrite source fs path = writeAt fs path (source.lookup path) := by
  cases path <;> rfl

theorem copied_cons (source : Value) (path : List String) (paths : List (List String))
    (fs : Fields) :
    copied source (path :: paths) fs =
      copied source paths (writeAt fs path (source.lookup path)) := by
  rw [copied, List.foldl_cons, overwrite_eq, copied]

variable {source other : Value} {paths : List (List String)}

theorem lookup_copied_of_apart {path : List String} (apart : ∀ p ∈ paths, Apart p path)
    (fs : Fields) : lookup path (.obj (copied source paths fs)) = lookup path (.obj fs) := by
  induction paths generalizing fs with
  | nil => rfl
  | cons p rest ih =>
    have parts := List.forall_mem_cons.mp apart
    rw [copied_cons, ih parts.2, lookup_writeAt_of_apart parts.1]

theorem lookup_copied_of_mem (apart : paths.Pairwise Apart) {path : List String}
    (member : path ∈ paths) (nonempty : path ≠ []) (fs : Fields) :
    lookup path (.obj (copied source paths fs)) = lookup path source := by
  induction paths generalizing fs with
  | nil => simp at member
  | cons p rest ih =>
    have parts := List.pairwise_cons.mp apart
    rw [copied_cons]
    rcases List.mem_cons.mp member with rfl | tail
    · rw [lookup_copied_of_apart (fun q inRest => (parts.1 q inRest).symm)]
      exact lookup_writeAt_self fs nonempty _
    · exact ih parts.2 tail _

theorem fieldMeanings_copied_congr {fs gs : Fields} (same : fieldMeanings fs = fieldMeanings gs) :
    fieldMeanings (copied source paths fs) = fieldMeanings (copied source paths gs) := by
  induction paths generalizing fs gs with
  | nil => exact same
  | cons p rest ih =>
    rw [copied_cons, copied_cons]
    exact ih (fieldMeanings_writeAt_congr same p rfl)

/-- A write at a path that parts from all copied ones can be done before or after them. -/
theorem fieldMeanings_copied_writeAt {path : List String} (apart : ∀ p ∈ paths, Apart p path)
    (fs : Fields) (v : Value) :
    fieldMeanings (copied source paths (writeAt fs path v)) =
      fieldMeanings (writeAt (copied source paths fs) path v) := by
  induction paths generalizing fs with
  | nil => rfl
  | cons p rest ih =>
    have parts := List.forall_mem_cons.mp apart
    rw [copied_cons, copied_cons, ← ih parts.2]
    exact fieldMeanings_copied_congr (fieldMeanings_writeAt_comm parts.1.symm fs _ _)

/-- Of two copies below the same paths only the second counts. -/
theorem fieldMeanings_copied_copied (apart : paths.Pairwise Apart) (fs : Fields) :
    fieldMeanings (copied source paths (copied other paths fs)) =
      fieldMeanings (copied source paths fs) := by
  induction paths generalizing fs with
  | nil => rfl
  | cons p rest ih =>
    have parts := List.pairwise_cons.mp apart
    have fromRest : ∀ q ∈ rest, Apart q p := fun q inRest => (parts.1 q inRest).symm
    simp only [copied_cons]
    calc fieldMeanings (copied source rest
          (writeAt (copied other rest (writeAt fs p (other.lookup p))) p (source.lookup p)))
        = fieldMeanings (copied source rest (copied other rest
            (writeAt (writeAt fs p (other.lookup p)) p (source.lookup p)))) :=
          fieldMeanings_copied_congr (fieldMeanings_copied_writeAt fromRest _ _).symm
      _ = fieldMeanings (copied source rest (writeAt fs p (source.lookup p))) := by
          rw [writeAt_writeAt_self, ih parts.2]

/-- Copying what is there already changes nothing. -/
theorem fieldMeanings_copied_of_agree {fs : Fields}
    (agree : ∀ p ∈ paths, (lookup p (.obj fs)).meaning = (lookup p source).meaning)
    (given : ∀ p ∈ paths, (lookup p source).meaning ≠ .null) :
    fieldMeanings (copied source paths fs) = fieldMeanings fs := by
  induction paths with
  | nil => rfl
  | cons p rest ih =>
    have agreeParts := List.forall_mem_cons.mp agree
    have givenParts := List.forall_mem_cons.mp given
    rw [copied_cons]
    calc fieldMeanings (copied source rest (writeAt fs p (source.lookup p)))
        = fieldMeanings (copied source rest fs) :=
          fieldMeanings_copied_congr (fieldMeanings_writeAt_of_lookup agreeParts.1 givenParts.1)
      _ = fieldMeanings fs := ih agreeParts.2 givenParts.2

theorem MetadataOpen.copied {fs : Fields} (opened : MetadataOpen fs)
    (below : ∀ p ∈ paths, p ≠ ["metadata"]) : MetadataOpen (copied source paths fs) := by
  induction paths generalizing fs with
  | nil => exact opened
  | cons p rest ih =>
    have parts := List.forall_mem_cons.mp below
    rw [copied_cons]
    exact ih (opened.writeAt parts.1 _) parts.2

end Fields

namespace Resource
open Value Fields

/-- The key paths of what a repair of the object writes. -/
def facets (r : Resource) : List (List String) :=
  ["metadata", "labels"] :: ["metadata", "ownerReferences"] :: r.ownedPaths

/-- The object with nothing but its identity. -/
def bare (r : Resource) : Fields :=
  [("apiVersion", .str r.kind.kind.apiVersion), ("kind", .str r.kind.kind.name),
    ("metadata", .obj [("name", r.name), ("namespace", r.space)])]

/-- The fields of an object with all facets as desired. -/
def restored (r : Resource) (owner : Owner) (fs : Fields) : Fields :=
  copied (r.desired owner) r.facets fs

theorem facets_apart (r : Resource) : r.facets.Pairwise Apart := by
  obtain ⟨kind, s⟩ := r
  cases kind <;> simp [facets, ownedPaths, Apart]

/-- All facets part from the places of the metadata that are no facets themselves. -/
theorem facets_apart_metadata (r : Resource) {key : String} (labels : key ≠ "labels")
    (owners : key ≠ "ownerReferences") : ∀ p ∈ r.facets, Apart p ["metadata", key] := by
  obtain ⟨kind, s⟩ := r
  cases kind <;> simp [facets, ownedPaths, Apart, labels.symm, owners.symm]

theorem facets_nonempty (r : Resource) : ∀ p ∈ r.facets, p ≠ [] := by
  obtain ⟨kind, s⟩ := r
  cases kind <;> simp [facets, ownedPaths]

/-- Every facet of the desired state is an object or an array. -/
theorem desired_facet (r : Resource) (owner : Owner) : ∀ p ∈ r.facets,
    (∃ fs, (r.desired owner).lookup p = .obj fs) ∨ ∃ vs, (r.desired owner).lookup p = .arr vs := by
  obtain ⟨kind, s⟩ := r
  cases kind <;>
    simp [facets, ownedPaths, desired, payload, lookup, getD, get?, Settings.labels,
      Settings.ruleGroups]

/-- The desired state is the bare object with all facets written into it. -/
theorem desired_eq_restored (r : Resource) (owner : Owner) :
    r.desired owner = .obj (r.restored owner r.bare) := by
  obtain ⟨kind, s⟩ := r
  cases kind <;>
    simp [restored, copied, facets, ownedPaths, overwrite, Fields.assign, bare, desired, payload, lookup,
      getD, get?, put, inside, fields?]

theorem metadata_of_open {fs : Fields} (opened : MetadataOpen fs) :
    (Value.obj fs).metadata = .ok (.obj (inside (getD fs "metadata"))) := by
  cases found : get? fs "metadata" with
  | none => simp [Value.metadata, member, getD, found, orElse, isBlank, inside, fields?, bind,
      Except.bind, pure, Except.pure]
  | some v =>
    obtain ⟨ms, rfl⟩ := opened v found
    cases ms <;> simp [Value.metadata, member, getD, found, orElse, isBlank, inside, fields?, bind,
      Except.bind, pure, Except.pure]

theorem lookup_desired_labels (r : Resource) (owner : Owner) :
    (r.desired owner).lookup ["metadata", "labels"] = r.settings.labels := by
  simp [desired, lookup, getD, get?]

theorem lookup_desired_owners (r : Resource) (owner : Owner) :
    (r.desired owner).lookup ["metadata", "ownerReferences"] = .arr [owner.reference] := by
  simp [desired, lookup, getD, get?]

theorem desired_metadata (r : Resource) (owner : Owner) : ∃ metadata,
    (r.desired owner).part "metadata" = .ok metadata ∧
      metadata.part "labels" = .ok r.settings.labels ∧
      metadata.part "ownerReferences" = .ok (.arr [owner.reference]) := by
  refine ⟨.obj [("name", r.name), ("namespace", r.space), ("labels", r.settings.labels),
    ("ownerReferences", .arr [owner.reference])], ?_, ?_, ?_⟩ <;> simp [desired, part, get?]

/-- A drift is a difference at some facet. -/
theorem differs_obj (r : Resource) (owner : Owner) {fs : Fields} (opened : MetadataOpen fs) :
    r.differs (.obj fs) (r.desired owner) = .ok (r.facets.any fun p =>
      !decide ((Value.obj fs).lookup p ≈ (r.desired owner).lookup p)) := by
  have found : ∀ key, getD (inside (getD fs "metadata")) key =
      (Value.obj fs).lookup ["metadata", key] := by
    intro key
    exact lookup_inside key [] (getD fs "metadata")
  obtain ⟨wanted, isWanted, wantedLabels, wantedOwners⟩ := r.desired_metadata owner
  simp only [differs, metadata_of_open opened, isWanted, wantedLabels, wantedOwners, bind,
    Except.bind, member, found]
  simp only [facets, List.any_cons, lookup_desired_labels, lookup_desired_owners, contentDiffers]
  by_cases labels : (Value.obj fs).lookup ["metadata", "labels"] ≈ r.settings.labels <;>
    by_cases owners : (Value.obj fs).lookup ["metadata", "ownerReferences"] ≈
      .arr [owner.reference] <;>
    simp [labels, owners, pure, Except.pure]

/-- A repair writes all facets and nothing else. -/
theorem heal_obj (r : Resource) (owner : Owner) {fs : Fields} (opened : MetadataOpen fs) :
    r.heal (.obj fs) (r.desired owner) = .ok (.obj (r.restored owner fs)) := by
  have written : r.restored owner fs = r.ownedPaths.foldl (overwrite (r.desired owner))
      (put fs "metadata" (.obj (put (put (inside (getD fs "metadata")) "labels"
        r.settings.labels) "ownerReferences" (.arr [owner.reference])))) := by
    simp only [restored, facets, copied_cons, lookup_desired_labels, lookup_desired_owners,
      writeAt_cons_cons, writeAt_singleton, getD_put_self, put_put_self]
    rfl
  obtain ⟨wanted, isWanted, wantedLabels, wantedOwners⟩ := r.desired_metadata owner
  have place : (get? fs "metadata").getD (.obj []) = .obj (inside (getD fs "metadata")) := by
    cases found : get? fs "metadata" with
    | none => simp [getD, found, inside, fields?]
    | some v =>
      obtain ⟨ms, rfl⟩ := opened v found
      simp [getD, found, inside, fields?]
  rw [written]
  simp only [heal, toFields, place, withPart, isWanted, wantedLabels, wantedOwners, bind,
    Except.bind, pure, Except.pure]

/-- No facet of the desired state is null, or differs from itself. -/
theorem desired_facet_meaning (r : Resource) (owner : Owner) {p : List String}
    (member : p ∈ r.facets) : ((r.desired owner).lookup p).meaning ≠ .null ∧
      (r.desired owner).lookup p ≈ (r.desired owner).lookup p := by
  rcases r.desired_facet owner p member with ⟨fs, is⟩ | ⟨vs, is⟩ <;> rw [is]
  · exact ⟨by simp [meaning], Agrees.refl (by simp [meaning])⟩
  · exact ⟨by simp [meaning], Agrees.refl (by simp [meaning])⟩

/-- An object whose facets are all as desired has not drifted. -/
theorem differs_of_facets {r : Resource} {owner : Owner} {fs : Fields} (opened : MetadataOpen fs)
    (same : ∀ p ∈ r.facets, lookup p (.obj fs) = (r.desired owner).lookup p) :
    r.differs (.obj fs) (r.desired owner) = .ok false := by
  rw [differs_obj r owner opened]
  congr 1
  rw [List.any_eq_false]
  intro p member
  simp [same p member, (r.desired_facet_meaning owner member).2]

theorem lookup_restored (r : Resource) (owner : Owner) (fs : Fields) :
    ∀ p ∈ r.facets, lookup p (.obj (r.restored owner fs)) = (r.desired owner).lookup p :=
  fun p member => lookup_copied_of_mem r.facets_apart member (r.facets_nonempty p member) fs

theorem restored_open (r : Resource) (owner : Owner) {fs : Fields} (opened : MetadataOpen fs) :
    MetadataOpen (r.restored owner fs) := by
  refine opened.copied ?_
  obtain ⟨kind, s⟩ := r
  cases kind <;> simp [facets, ownedPaths]

/-- Of two repairs of an object, under any settings and owners, only the last one counts. -/
theorem restored_restored {r r' : Resource} (kind : r'.kind = r.kind) (owner owner' : Owner)
    (fs : Fields) : fieldMeanings (r.restored owner (r'.restored owner' fs)) =
      fieldMeanings (r.restored owner fs) := by
  have paths : r'.facets = r.facets := by simp only [facets, ownedPaths, kind]
  rw [restored, restored, paths]
  exact fieldMeanings_copied_copied r.facets_apart fs

theorem restored_congr (r : Resource) (owner : Owner) {fs gs : Fields}
    (same : fieldMeanings fs = fieldMeanings gs) :
    fieldMeanings (r.restored owner fs) = fieldMeanings (r.restored owner gs) :=
  fieldMeanings_copied_congr same

/-- The facets of an object that has not drifted agree with the desired ones. -/
theorem agree_of_not_differs {r : Resource} {owner : Owner} {fs : Fields}
    (opened : MetadataOpen fs) (kept : r.differs (.obj fs) (r.desired owner) = .ok false) :
    ∀ p ∈ r.facets, lookup p (.obj fs) ≈ (r.desired owner).lookup p := by
  rw [differs_obj r owner opened, Except.ok.injEq, List.any_eq_false] at kept
  intro p member
  simpa using kept p member

/-- The repair of an object that has not drifted changes nothing. -/
theorem restored_of_not_differs {r : Resource} {owner : Owner} {fs : Fields}
    (opened : MetadataOpen fs) (kept : r.differs (.obj fs) (r.desired owner) = .ok false) :
    fieldMeanings (r.restored owner fs) = fieldMeanings fs := by
  have agree := agree_of_not_differs opened kept
  exact fieldMeanings_copied_of_agree (fun p member => (agree p member).1)
    (fun p member => (r.desired_facet_meaning owner member).1)

end Resource

end MonitoringUpkeep
