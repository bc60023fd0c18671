import MonitoringUpkeep.Proofs.RepairLaws
import MonitoringUpkeep.Proofs.Visit

/-!
# Drift that cannot be repaired

A comparison takes metadata that do not count as given for empty ones, a repair only metadata that are
absent. So the drift of an object with null metadata, say, is seen but cannot be repaired, and as long as
the object stays as it is, every pass fails at it. Of all objects whose drift is seen, those with metadata
that are absent or an object can be repaired, and no others.
-/

namespace MonitoringUpkeep

namespace Fields

/-- Metadata that stand there but do not count as given, and are no object: null, false, zero, or an
    empty text or array. -/
def MetadataVoid (fs : Fields) : Prop :=
  ∃ v, get? fs "metadata" = some v ∧ v.isBlank = true ∧ ∀ ms, v ≠ .obj ms

end Fields

namespace Value

/-- The complaint about writing a field of a value that is no object. -/
def unwritable : Value → Failure
  | .arr _ => .misfit .nameIntoArray
  | v => .misfit (.noWriting v.typeName)

theorem withPart_unwritable {v : Value} (other : ∀ ms, v ≠ .obj ms) (key : String) (w : Value) :
    v.withPart key w = .error v.unwritable := by
  cases v with
  | obj ms => exact absurd rfl (other ms)
  | _ => rfl

end Value

namespace Resource
open Value Fields

variable {r : Resource} {owner : Owner} {fs : Fields}

/-- Drift is seen wherever the metadata do not count as given. -/
theorem differs_of_void (void : MetadataVoid fs) :
    r.differs (.obj fs) (r.desired owner) = .ok true := by
  obtain ⟨v, found, blank, -⟩ := void
  have read : (Value.obj fs).metadata = .ok (.obj []) := by
    simp [Value.metadata, member, getD, found, orElse, blank, bind, Except.bind, pure, Except.pure]
  have none : ¬ Value.null ≈ r.settings.labels := by
    simp [agrees_iff, meaning, Settings.labels]
  obtain ⟨wanted, isWanted, wantedLabels, -⟩ := r.desired_metadata owner
  simp only [differs, read, isWanted, wantedLabels, bind, Except.bind, member, getD, get?,
    Option.getD_none, none, not_false_eq_true, if_true]
  rfl

/-- A comparison reads the metadata: they are absent, an object, or do not count as given. -/
theorem open_or_void_of_differs {drifted : Bool}
    (told : r.differs (.obj fs) (r.desired owner) = .ok drifted) :
    MetadataOpen fs ∨ MetadataVoid fs := by
  by_cases opened : MetadataOpen fs
  · exact .inl opened
  · obtain ⟨v, found, other⟩ : ∃ v, get? fs "metadata" = some v ∧ ∀ ms, v ≠ .obj ms := by
      simpa [MetadataOpen] using opened
    refine .inr ⟨v, found, ?_, other⟩
    by_contra given
    have read : (Value.obj fs).metadata = .ok v := by
      simp [Value.metadata, member, getD, found, orElse, given, bind, Except.bind, pure, Except.pure]
    -- What counts as given and is no object has no labels that could be read.
    have noLabels : ∃ f, v.member "labels" = .error f := by
      cases v with
      | obj ms => exact absurd rfl (other ms)
      | _ => exact ⟨_, rfl⟩
    obtain ⟨f, fails⟩ := noLabels
    obtain ⟨wanted, isWanted, -, -⟩ := r.desired_metadata owner
    simp only [differs, read, isWanted, fails, bind, Except.bind] at told
    cases told

/-- A repair fails to write into metadata that are there and no object. -/
theorem heal_of_unwritable {v : Value} (found : get? fs "metadata" = some v)
    (other : ∀ ms, v ≠ .obj ms) :
    r.heal (.obj fs) (r.desired owner) = .error v.unwritable := by
  obtain ⟨wanted, isWanted, wantedLabels, -⟩ := r.desired_metadata owner
  simp only [heal, toFields, found, Option.getD_some, isWanted, wantedLabels,
    withPart_unwritable other, bind, Except.bind]

/-- A repair succeeds exactly where the metadata are absent or an object. -/
theorem heal_ok_iff : (∃ healed, r.heal (.obj fs) (r.desired owner) = .ok healed) ↔
    MetadataOpen fs := by
  constructor
  · rintro ⟨healed, succeeds⟩ v found
    by_contra other
    rw [heal_of_unwritable found (not_exists.mp other)] at succeeds
    cases succeeds
  · exact fun opened => ⟨_, heal_obj r owner opened⟩

end Resource

namespace Pass

variable {ω : Type} {env : Environment ω} {recorder : Recorder}

/-- A pass fails at an object whose look calls for nothing but a failure. -/
theorem Walk.fails_at {r : Resource} {rs : List Resource} {w w' : ω} {ending : Ending Unit} {t : Trace}
    (walk : Walk env recorder rs w ending t w') (member : r ∈ rs)
    (due : ∀ v, ∃ f, r.due recorder.owner (env.reply r.look v).1 = .error f) : ending ≠ .done () := by
  induction walk with
  | nil => cases member
  | stop => nofun
  | @step r' _ w _ _ _ _ _ first others ih =>
    rcases List.mem_cons.mp member with rfl | later
    · obtain ⟨f, fails⟩ := due w
      cases first with
      | kept looked nothing =>
        rw [looked, nothing] at fails
        cases fails
      | written looked wanted =>
        rw [looked, wanted] at fails
        cases fails
    · exact ih later

end Pass

namespace Resource
open Fields

/-- What becomes of the drift of an object with given fields. -/
structure Mends (r : Resource) (owner : Owner) (fs : Fields) : Prop where
  /-- a comparison tells whether the object has drifted exactly where the metadata are absent, an
      object, or do not count as given -/
  told : (∃ drifted, r.differs (.obj fs) (r.desired owner) = .ok drifted) ↔
    MetadataOpen fs ∨ MetadataVoid fs
  /-- where drift is seen, it can be repaired exactly if the metadata are absent or an object -/
  healable : r.differs (.obj fs) (r.desired owner) = .ok true →
    ((∃ healed, r.heal (.obj fs) (r.desired owner) = .ok healed) ↔ MetadataOpen fs)
  /-- what is repaired has not drifted -/
  inSync : ∀ healed, r.heal (.obj fs) (r.desired owner) = .ok healed →
    r.differs healed (r.desired owner) = .ok false
  /-- drift is seen where metadata do not count as given, and its repair is a complaint about them -/
  stuck : ∀ v, get? fs "metadata" = some v → v.isBlank = true → (∀ ms, v ≠ .obj ms) →
    r.differs (.obj fs) (r.desired owner) = .ok true ∧
      r.heal (.obj fs) (r.desired owner) = .error v.unwritable
  /-- as long as such an object stays, every pass over it fails -/
  jams : MetadataVoid fs → ∀ {ω : Type} (env : Environment ω) (recorder : Recorder),
    recorder.owner = owner → (∀ w, (env.reply r.look w).1 = .ok (.obj fs)) →
    ∀ rs, r ∈ rs → ∀ w, (Pass.run env recorder rs w).ending ≠ .done ()

/-- Drift that is seen can be repaired, unless it is that of an object with metadata that do not count as
    given: these stop each pass. -/
theorem drift_mends (r : Resource) (owner : Owner) (fs : Fields) : Mends r owner fs where
  told := by
    constructor
    · rintro ⟨drifted, told⟩
      exact open_or_void_of_differs told
    · rintro (opened | void)
      · exact ⟨_, differs_obj r owner opened⟩
      · exact ⟨true, differs_of_void void⟩
  healable _ := heal_ok_iff
  inSync := by
    intro healed succeeds
    have opened := heal_ok_iff.mp ⟨healed, succeeds⟩
    rw [heal_obj r owner opened, Except.ok.injEq] at succeeds
    subst succeeds
    exact differs_of_facets (r.restored_open owner opened) (r.lookup_restored owner fs)
  stuck v found blank other :=
    ⟨differs_of_void ⟨v, found, blank, other⟩, heal_of_unwritable found other⟩
  jams := by
    rintro void ω env recorder rfl stays rs member w
    refine (Pass.run_walk env recorder rs w).fails_at member fun v => ?_
    have seen : r.differs (.obj fs) (r.desired recorder.owner) = .ok true := differs_of_void void
    obtain ⟨u, found, -, other⟩ := void
    refine ⟨u.unwritable, ?_⟩
    rw [stays v]
    simp only [due, seen, heal_of_unwritable found other, bind, Except.bind, if_true]

/-- The drift of a role with null metadata is seen, and its repair fails. -/
theorem heal_fails_on_null :
    let r : Resource := ⟨.role, { space := "kubevirt-hyperconverged", operatorVersion := "1.10.0" }⟩
    let owner : Owner :=
      { name := "hco-operator", space := "kubevirt-hyperconverged", uid := "1234567890" }
    let observed : Fields := [("metadata", .null)]
    r.differs (.obj observed) (r.desired owner) = .ok true ∧
      r.heal (.obj observed) (r.desired owner) = .error (.misfit (.noWriting "NoneType")) := by
  intro r owner observed
  have other : ∀ ms, Value.null ≠ .obj ms := nofun
  exact ⟨differs_of_void ⟨.null, rfl, rfl, other⟩, heal_of_unwritable rfl other⟩

end Resource

end MonitoringUpkeep
