import Mathlib.Data.List.Pairwise
import MonitoringUpkeep.Proofs.Drift

/-!
# Changes at key paths

What a write at a key path leaves alone, told apart from what is absent: at a path that parts from the
written one there stands what stood there, or nothing still, and on the way to the written place there
are objects, which were there before or are made in place of something that may be given up. Such
changes can be chained, so that `Value.ChangedAt` says of any number of writes at some paths what they
leave of a value.
-/

namespace MonitoringUpkeep

instance : Std.Symm Apart := ⟨fun _ _ => Apart.symm⟩

namespace Value

/-- The value at a key path, if there is one. -/
def seek? : List String → Value → Option Value
  | [], v => some v
  | key :: rest, .obj fs =>
    match Fields.get? fs key with
    | some v => seek? rest v
    | none => none
  | _ :: _, _ => none

@[simp] theorem seek?_nil (v : Value) : seek? [] v = some v := by cases v <;> rfl

/-- Below a key, a value that is no object holds as little as one without fields. -/
theorem seek?_inside (key : String) (rest : List String) (v : Value) :
    seek? (key :: rest) (.obj (Fields.inside v)) = seek? (key :: rest) v := by
  cases v <;> rfl

/-- At least two keys down it makes no difference whether the first leads to nothing or to null. -/
theorem seek?_cons_cons (key next : String) (rest : List String) (fs : Fields) :
    seek? (key :: next :: rest) (.obj fs) = seek? (next :: rest) (Fields.getD fs key) := by
  cases found : Fields.get? fs key <;> simp [seek?, Fields.getD, found]

/-- The fields of an object are found below the path of the object. -/
theorem seek?_field {path : List String} {v : Value} {fs : Fields} (found : seek? path v = some (.obj fs))
    (field : String) : seek? (path ++ [field]) v = Fields.get? fs field := by
  induction path generalizing v with
  | nil =>
    rw [seek?_nil] at found
    obtain rfl := Option.some.inj found
    rw [List.nil_append, seek?]
    cases Fields.get? fs field <;> simp
  | cons key rest ih =>
    cases v with
    | obj gs =>
      rw [List.cons_append, seek?]
      cases there : Fields.get? gs key with
      | none => simp [seek?, there] at found
      | some child =>
        simp only [seek?, there] at found
        exact ih found
    | _ => cases found

end Value

namespace Fields
open Value

/-- A write leaves alone what stands, or does not, at a path that parts from its own. -/
theorem seek?_writeAt_of_apart {path other : List String} (apart : Apart path other) (fs : Fields)
    (v : Value) : seek? other (.obj (writeAt fs path v)) = seek? other (.obj fs) := by
  induction path generalizing fs other with
  | nil => cases other <;> exact apart.elim
  | cons key rest ih =>
    cases other with
    | nil => exact apart.elim
    | cons key' rest' =>
      by_cases equal : key = key'
      · subst equal
        have below : Apart rest rest' := apart.resolve_left (fun h => h rfl)
        cases rest with
        | nil => cases rest' <;> exact below.elim
        | cons next rest =>
          cases rest' with
          | nil => exact below.elim
          | cons next' rest' =>
            rw [writeAt_cons_cons, seek?_cons_cons, getD_put_self, ih below, seek?_inside,
              seek?_cons_cons]
      · have kept : ∀ w, get? (put fs key w) key' = get? fs key' := fun w =>
          get?_put_of_ne fs (Ne.symm equal) w
        cases rest <;> simp only [writeAt_singleton, writeAt_cons_cons, seek?, kept]

/-- On the way to the written place there are objects. -/
theorem seek?_writeAt_way {path way : List String} (before : way <+: path)
    (short : way ≠ path) (fs : Fields) (v : Value) :
    ∃ gs, seek? way (.obj (writeAt fs path v)) = some (.obj gs) := by
  induction path generalizing fs way with
  | nil => exact absurd (List.prefix_nil.mp before) short
  | cons key rest ih =>
    cases way with
    | nil => exact ⟨_, seek?_nil _⟩
    | cons key' way =>
      obtain ⟨rfl, below⟩ := List.cons_prefix_cons.mp before
      cases rest with
      | nil => exact absurd (congrArg _ (List.prefix_nil.mp below)) short
      | cons next rest =>
        have shorter : way ≠ next :: rest := fun same => short (congrArg _ same)
        obtain ⟨gs, found⟩ := ih below shorter (inside (getD fs key'))
        refine ⟨gs, ?_⟩
        rw [writeAt_cons_cons, seek?, get?_put_self]
        exact found

theorem seek?_copied_of_apart {source : Value} {paths : List (List String)} {path : List String}
    (apart : ∀ p ∈ paths, Apart p path) (fs : Fields) :
    seek? path (.obj (copied source paths fs)) = seek? path (.obj fs) := by
  induction paths generalizing fs with
  | nil => rfl
  | cons p rest ih =>
    have parts := List.forall_mem_cons.mp apart
    rw [copied_cons, ih parts.2, seek?_writeAt_of_apart parts.1]

end Fields

namespace Value
open Fields

/-- Every value on the way to a place is an object or may be given up for one. -/
def Passable (yields : List String → Value → Prop) (path : List String) (v : Value) : Prop :=
  ∀ way, way <+: path → way ≠ path → ∀ w, seek? way v = some w → (∃ fs, w = .obj fs) ∨ yields way w

theorem passable_singleton {yields : List String → Value → Prop} {key : String} {v : Value}
    (here : (∃ fs, v = .obj fs) ∨ yields [] v) : Passable yields [key] v := by
  intro way before short w found
  cases way with
  | nil =>
    rw [seek?_nil] at found
    exact Option.some.inj found ▸ here
  | cons key' rest =>
    obtain ⟨rfl, below⟩ := List.cons_prefix_cons.mp before
    exact absurd (congrArg _ (List.prefix_nil.mp below)) short

/-- The way to a place in an object is passable if it is so from the field on. -/
theorem passable_obj {yields : List String → Value → Prop} {key : String} {rest : List String}
    {fs : Fields} (below : ∀ child, get? fs key = some child →
      Passable (fun way => yields (key :: way)) rest child) :
    Passable yields (key :: rest) (.obj fs) := by
  intro way before short w found
  cases way with
  | nil =>
    rw [seek?_nil] at found
    exact .inl ⟨fs, (Option.some.inj found).symm⟩
  | cons key' way =>
    obtain ⟨rfl, within⟩ := List.cons_prefix_cons.mp before
    cases there : get? fs key' with
    | none => simp [seek?, there] at found
    | some child =>
      simp only [seek?, there] at found
      exact below child there way within (fun same => short (congrArg _ same)) w found

/-- A value has become another one by changes at some key paths; a value on the way to one of them is
    as it was, or it is an object and was one or was given up. -/
structure ChangedAt (paths : List (List String)) (yields : List String → Value → Prop)
    (old new : Value) : Prop where
  kept : ∀ path, (∀ p ∈ paths, Apart p path) → seek? path new = seek? path old
  ways : ∀ p ∈ paths, ∀ way, way <+: p → way ≠ p → seek? way new = seek? way old ∨
    (∃ fs, seek? way new = some (.obj fs)) ∧
      ∀ w, seek? way old = some w → (∃ fs, w = .obj fs) ∨ yields way w

variable {paths : List (List String)} {yields : List String → Value → Prop}

namespace ChangedAt

theorem refl (v : Value) : ChangedAt paths yields v v := ⟨fun _ _ => rfl, fun _ _ _ _ _ => .inl rfl⟩

theorem trans {u v w : Value} (first : ChangedAt paths yields u v)
    (later : ChangedAt paths yields v w) : ChangedAt paths yields u w := by
  refine ⟨fun path apart => (later.kept path apart).trans (first.kept path apart), ?_⟩
  intro p member way before short
  rcases later.ways p member way before short with same | ⟨object, gave⟩
  · rw [same]
    exact first.ways p member way before short
  · refine .inr ⟨object, ?_⟩
    rcases first.ways p member way before short with same | ⟨-, gave'⟩
    · rwa [same] at gave
    · exact gave'

/-- A write at one of the paths, where the way is passable. -/
theorem writeAt (apart : paths.Pairwise Apart) {path : List String} (member : path ∈ paths)
    {fs : Fields} (passable : Passable yields path (.obj fs)) (v : Value) :
    ChangedAt paths yields (.obj fs) (.obj (writeAt fs path v)) := by
  refine ⟨fun other parts => seek?_writeAt_of_apart (parts path member) fs v, ?_⟩
  intro p other way before short
  by_cases same : p = path
  · subst same
    exact .inr ⟨seek?_writeAt_way before short fs v, passable way before short⟩
  · have parts : Apart path p := apart.forall member other (Ne.symm same)
    by_cases onWay : way <+: path
    · have shorter : way ≠ path := by
        rintro rfl
        exact (apart_iff.mp parts).1 before
      exact .inr ⟨seek?_writeAt_way onWay shorter fs v, passable way onWay shorter⟩
    · refine .inl (seek?_writeAt_of_apart (apart_iff.mpr ⟨fun through => ?_, onWay⟩) fs v)
      exact (apart_iff.mp parts).1 (through.trans before)

/-- Copies to some of the paths, where the ways are passable and the writes keep them so. -/
theorem copied (apart : paths.Pairwise Apart) {Open : Fields → Prop}
    (passable : ∀ fs, Open fs → ∀ p ∈ paths, Passable yields p (.obj fs))
    (kept : ∀ fs, Open fs → ∀ p ∈ paths, ∀ v, Open (Fields.writeAt fs p v)) {copies : List (List String)}
    (among : ∀ p ∈ copies, p ∈ paths) {fs : Fields} (opened : Open fs) (source : Value) :
    ChangedAt paths yields (.obj fs) (.obj (copied source copies fs)) := by
  induction copies generalizing fs with
  | nil => exact .refl _
  | cons p rest ih =>
    have parts := List.forall_mem_cons.mp among
    rw [copied_cons]
    exact (writeAt apart parts.1 (passable fs opened p parts.1) _).trans
      (ih parts.2 (kept fs opened p parts.1 _))

end ChangedAt

end Value

end MonitoringUpkeep
