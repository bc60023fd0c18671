import MonitoringUpkeep.Projection
import MonitoringUpkeep.Proofs.KeyPath
import MonitoringUpkeep.Proofs.Reading

/-!
# References that are as they should be

The references in the status of an object are compared with those to the managed objects by what
identifies them, however they are ordered. They are written anew exactly where the two differ as
bags, and after the writing there is nothing left to write.
-/

namespace MonitoringUpkeep

namespace Projection
open Value Fields

/-- What identifies a reference, whatever stands there as one. -/
def mark (reference : Value) : Identity where
  apiVersion := (reference.lookup ["apiVersion"]).meaning
  kind := (reference.lookup ["kind"]).meaning
  space := (reference.lookup ["namespace"]).meaning
  name := (reference.lookup ["name"]).meaning

/-- Where the references stand in an object. -/
def referencesPath : List String := ["status", "relatedObjects"]

/-- The status of an object refers to the given managed objects, in any order, and to nothing
    else. -/
def Refers (rs : List Resource) (v : Value) : Prop := ∃ references,
  v.lookup referencesPath = .arr references ∧
    (references.map mark).Perm (rs.map fun r => mark r.reference)

/-- A value without parts, which can be part of what identifies a reference. -/
def Plain (v : Value) : Prop := (∀ items, v ≠ .arr items) ∧ ∀ fs, v ≠ .obj fs

/-- A reference that can be compared: an object with fields that can be part of what identifies
    it. -/
structure Comparable (reference : Value) : Prop where
  object : ∃ fs, reference = .obj fs
  plain : ∀ key ∈ ["apiVersion", "kind", "namespace", "name"], Plain (reference.lookup [key])

theorem identifying_ok_iff {v : Value} {m : Meaning} :
    identifying v = .ok m ↔ Plain v ∧ v.meaning = m := by
  cases v <;> simp [identifying, Plain]

theorem identity_ok_iff {v : Value} {i : Identity} :
    identity v = .ok i ↔ Comparable v ∧ mark v = i := by
  cases v with
  | obj fs =>
    simp only [identity, member, bind_ok_iff, pure_ok_iff, Except.ok.injEq, exists_eq_left',
      identifying_ok_iff]
    constructor
    · rintro ⟨a, ⟨plainA, rfl⟩, k, ⟨plainK, rfl⟩, s, ⟨plainS, rfl⟩, n, ⟨plainN, rfl⟩, rfl⟩
      exact ⟨⟨⟨fs, rfl⟩, by simp [lookup, plainA, plainK, plainS, plainN]⟩, rfl⟩
    · rintro ⟨⟨-, plain⟩, rfl⟩
      simp only [List.forall_mem_cons] at plain
      obtain ⟨plainA, plainK, plainS, plainN, -⟩ := plain
      exact ⟨_, ⟨plainA, rfl⟩, _, ⟨plainK, rfl⟩, _, ⟨plainS, rfl⟩, _, ⟨plainN, rfl⟩, rfl⟩
  | _ =>
    constructor
    · intro fails
      cases fails
    · rintro ⟨⟨⟨fs, same⟩, -⟩, -⟩
      cases same

theorem identities_ok_iff {vs : List Value} {is : List Identity} :
    identities vs = .ok is ↔ (∀ v ∈ vs, Comparable v) ∧ vs.map mark = is := by
  simp only [identities, mapM_ok_iff, identity_ok_iff]
  induction vs generalizing is with
  | nil => simp [List.forall₂_nil_left_iff, eq_comm]
  | cons v rest ih =>
    simp only [List.forall₂_cons_left_iff, ih, List.forall_mem_cons, List.map_cons]
    constructor
    · rintro ⟨i, is, ⟨first, rfl⟩, ⟨others, rfl⟩, rfl⟩
      exact ⟨⟨first, others⟩, rfl⟩
    · rintro ⟨⟨first, others⟩, rfl⟩
      exact ⟨_, _, ⟨first, rfl⟩, ⟨others, rfl⟩, rfl⟩

/-- References that can be read and compared are those that stand in the status. -/
theorem lookup_of_references {v : Value} {references : List Value}
    (read : Projection.references v = .ok references) (given : references ≠ [])
    (comparable : ∀ r ∈ references, Comparable r) : v.lookup referencesPath = .arr references := by
  simp only [Projection.references, bind_ok_iff] at read
  obtain ⟨_, reached, _, found, items⟩ := read
  obtain ⟨first, member⟩ := List.exists_mem_of_ne_nil references given
  exact lookup_of_items reached found items member (comparable first member).object

/-- References that stand in the status are read. -/
theorem references_of_lookup {v : Value} {references : List Value}
    (stand : v.lookup referencesPath = .arr references) :
    Projection.references v = .ok references := by
  cases v with
  | obj fs =>
    cases status : getD fs "status" with
    | obj ss =>
      have listed : getD ss "relatedObjects" = .arr references := by
        simpa only [referencesPath, lookup, status] using stand
      have whole : (Value.obj ss).orElse (.obj []) = .obj ss := by
        cases ss <;> rfl
      have itself : (Value.arr references).orElse (.arr []) = .arr references := by
        cases references <;> rfl
      simp only [Projection.references, bind_ok_iff, member_ok_iff]
      exact ⟨_, ⟨fs, rfl, status⟩, _, ⟨ss, whole, listed⟩, by rw [itself]; rfl⟩
    | _ => simp [referencesPath, lookup, status] at stand
  | _ => cases stand

section Updates

variable {rs : List Resource} {v v' : Value}

/-- An update compares the references that are read with those wanted. -/
theorem update?_ok_iff {update : Option Value} : update? rs v = .ok update ↔ ∃ references,
    Projection.references v = .ok references ∧ (∀ r ∈ references, Comparable r) ∧
      (∀ r ∈ rs, Comparable r.reference) ∧
      if (references.map mark).Perm (rs.map fun r => mark r.reference) then update = none
      else ∃ v', withReferences v (rs.map Resource.reference) = .ok v' ∧ update = some v' := by
  have wanted : (rs.map Resource.reference).map mark = rs.map fun r => mark r.reference :=
    List.map_map
  simp only [update?, bind_ok_iff, identities_ok_iff, List.forall_mem_map]
  constructor
  · rintro ⟨references, read, _, ⟨comparable, rfl⟩, _, ⟨given, rfl⟩, compared⟩
    refine ⟨references, read, comparable, given, ?_⟩
    rw [← wanted]
    split at compared
    · rename_i same
      rw [if_pos same]
      exact (pure_ok_iff.mp compared).symm
    · rename_i differ
      rw [if_neg differ]
      obtain ⟨v', written, updated⟩ := bind_ok_iff.mp compared
      exact ⟨v', written, (pure_ok_iff.mp updated).symm⟩
  · rintro ⟨references, read, comparable, given, compared⟩
    refine ⟨references, read, _, ⟨comparable, rfl⟩, _, ⟨given, rfl⟩, ?_⟩
    rw [← wanted] at compared
    split at compared
    · rename_i same
      rw [if_pos same, compared]
      rfl
    · rename_i differ
      obtain ⟨v', written, rfl⟩ := compared
      rw [if_neg differ, written]
      rfl

/-- The references in a status can be read and compared. -/
def Legible (v : Value) : Prop := ∃ references,
  Projection.references v = .ok references ∧ ∀ r ∈ references, Comparable r

theorem withReferences_ok_iff {references : List Value} :
    withReferences v references = .ok v' ↔ ∃ fs, v = .obj fs ∧
      .obj (writeAt fs referencesPath (.arr references)) = v' := by
  cases v with
  | obj fs => simp [withReferences, member, withPart, bind_ok_iff, referencesPath]
  | _ => simp [withReferences, member, bind_ok_iff]

/-- Where there is nothing to write, the references are as they should be. -/
theorem refers_of_update? (some : rs ≠ []) (kept : update? rs v = .ok none) : Refers rs v := by
  obtain ⟨references, read, comparable, -, compared⟩ := update?_ok_iff.mp kept
  split at compared
  · rename_i same
    have given : references ≠ [] := by
      rintro rfl
      exact some (List.map_eq_nil_iff.mp same.nil_eq.symm)
    exact ⟨references, lookup_of_references read given comparable, same⟩
  · obtain ⟨_, _, absurd⟩ := compared
    cases absurd

/-- What is written has the references as they should be in its status and is else the same, and it
    is written only where they were not so. -/
theorem of_update?_some (rewritten : update? rs v = .ok (some v')) :
    ¬ Refers rs v ∧ ∃ fs, v = .obj fs ∧
      .obj (writeAt fs referencesPath (.arr (rs.map Resource.reference))) = v' := by
  obtain ⟨references, read, comparable, -, compared⟩ := update?_ok_iff.mp rewritten
  split at compared
  · cases compared
  · rename_i differ
    obtain ⟨_, written, same⟩ := compared
    cases same
    refine ⟨?_, withReferences_ok_iff.mp written⟩
    rintro ⟨others, stand, same⟩
    rw [references_of_lookup stand] at read
    cases read
    exact differ same

/-- After the writing there is nothing left to write. -/
theorem update?_idempotent (rewritten : update? rs v = .ok (some v')) :
    update? rs v' = .ok none := by
  obtain ⟨-, fs, -, rfl⟩ := of_update?_some rewritten
  obtain ⟨references, -, -, given, -⟩ := update?_ok_iff.mp rewritten
  have nonempty : referencesPath ≠ [] := by decide
  have stand := lookup_writeAt_self fs nonempty (.arr (rs.map Resource.reference))
  refine update?_ok_iff.mpr ⟨_, references_of_lookup stand, List.forall_mem_map.mpr given, given, ?_⟩
  rw [if_pos (by rw [List.map_map]; exact .refl _)]

/-- Where all references can be read and compared there is an answer. -/
theorem exists_update? (legible : Legible v) (given : ∀ r ∈ rs, Comparable r.reference) :
    ∃ update, update? rs v = .ok update := by
  obtain ⟨references, read, comparable⟩ := legible
  have isObject : ∃ fs, v = .obj fs := by
    simp only [Projection.references, bind_ok_iff, member_ok_iff] at read
    obtain ⟨_, ⟨fs, object, -⟩, -⟩ := read
    exact ⟨fs, object⟩
  by_cases same : (references.map mark).Perm (rs.map fun r => mark r.reference)
  · exact ⟨none, update?_ok_iff.mpr ⟨references, read, comparable, given, by rw [if_pos same]⟩⟩
  · obtain ⟨fs, rfl⟩ := isObject
    obtain ⟨v', written⟩ : ∃ v', withReferences (.obj fs) (rs.map Resource.reference) = .ok v' :=
      ⟨_, withReferences_ok_iff.mpr ⟨fs, rfl, rfl⟩⟩
    exact ⟨some v', update?_ok_iff.mpr ⟨references, read, comparable, given, by
      rw [if_neg same]
      exact ⟨_, written, rfl⟩⟩⟩

end Updates

end Projection

end MonitoringUpkeep
