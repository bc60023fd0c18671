import MonitoringUpkeep.Proofs.Fields
import MonitoringUpkeep.Value.Path

/-!
# Writing at key paths

What is written at a key path is read there, and nothing else is touched at a path that parts from
it. Two writes at one path come to the second alone, and writes at paths that part commute up to the
order of fields.
-/

namespace MonitoringUpkeep

/-- Two key paths part where they differ at some key, so that neither leads to or through the
    other. -/
def Apart : List String → List String → Prop
  | k :: p, l :: q => k ≠ l ∨ Apart p q
  | _, _ => False

theorem Apart.symm : ∀ {p q : List String}, Apart p q → Apart q p
  | _ :: _, _ :: _, .inl different => .inl (Ne.symm different)
  | _ :: _, _ :: _, .inr apart => .inr (Apart.symm apart)

/-- Two key paths part exactly where neither leads to or through the other. -/
theorem apart_iff {p q : List String} : Apart p q ↔ ¬ p <+: q ∧ ¬ q <+: p := by
  induction p generalizing q with
  | nil => simp [Apart]
  | cons k p ih =>
    cases q with
    | nil => simp [Apart]
    | cons l q =>
      by_cases same : k = l
      · subst same
        simp [Apart, ih]
      · simp [Apart, same, Ne.symm same]

namespace Value

@[simp] theorem lookup_null (path : List String) : lookup path .null = .null := by
  cases path <;> rfl

/-- Below a key, a value that is no object reads as one without fields. -/
theorem lookup_inside (key : String) (rest : List String) (v : Value) :
    lookup (key :: rest) (.obj (Fields.inside v)) = lookup (key :: rest) v := by
  cases v <;> simp [Fields.inside, fields?, lookup, Fields.getD, Fields.get?]

/-- Only an object means an object. -/
theorem exists_obj_of_meaning {v : Value} {ms : List (String × Meaning)}
    (same : v.meaning = .obj ms) : ∃ fs, v = .obj fs := by
  cases v with
  | obj fs => exact ⟨fs, rfl⟩
  | real x => cases x <;> simp [meaning] at same
  | _ => simp [meaning] at same

/-- Only an array means an array, and its items mean those of the other, each in its place. -/
theorem exists_arr_of_meaning {v : Value} {items : List Value}
    (same : v.meaning = (Value.arr items).meaning) :
    ∃ vs, v = .arr vs ∧ List.Forall₂ (fun a b => a.meaning = b.meaning) vs items := by
  cases v with
  | arr vs =>
    refine ⟨vs, rfl, ?_⟩
    replace same : meanings vs = meanings items := by simpa [meaning] using same
    induction vs generalizing items with
    | nil =>
      cases items with
      | nil => exact .nil
      | cons item items => cases same
    | cons v vs ih =>
      cases items with
      | nil => cases same
      | cons item items =>
        have parts := List.cons.inj same
        exact .cons parts.1 (ih parts.2)
  | real x => cases x <;> simp [meaning] at same
  | _ => simp [meaning] at same

/-- An array that means one of a single item has a single item, which means that one. -/
theorem exists_single {v item : Value} (same : v.meaning = (Value.arr [item]).meaning) :
    ∃ u, v = .arr [u] ∧ u.meaning = item.meaning := by
  obtain ⟨vs, rfl, each⟩ := exists_arr_of_meaning same
  cases each with
  | cons first rest =>
    cases rest
    exact ⟨_, rfl, first⟩

/-- Only a text means a text. -/
theorem eq_str_of_meaning {v : Value} {t : String} (same : v.meaning = .text t) : v = .str t := by
  cases v with
  | str s => rw [Meaning.text.inj same]
  | real x => cases x <;> cases same
  | _ => cases same

theorem lookup_append (path rest : List String) (v : Value) :
    v.lookup (path ++ rest) = (v.lookup path).lookup rest := by
  induction path generalizing v with
  | nil => rfl
  | cons key path ih =>
    cases v with
    | obj fs => exact ih (Fields.getD fs key)
    | _ => exact (lookup_null rest).symm

end Value

namespace Fields
open Value

theorem inside_of_not_obj {v : Value} (h : ¬ ∃ fs, v = .obj fs) : inside v = [] := by
  cases v with
  | obj fs => exact absurd ⟨fs, rfl⟩ h
  | _ => rfl

/-- Writes a value at a key path; the empty path is no place. -/
def writeAt (fs : Fields) : List String → Value → Fields
  | [], _ => fs
  | key :: rest, v => assign fs key rest v

@[simp] theorem writeAt_singleton (fs : Fields) (key : String) (v : Value) :
    writeAt fs [key] v = put fs key v := rfl

@[simp] theorem writeAt_cons_cons (fs : Fields) (key next : String) (rest : List String)
    (v : Value) :
    writeAt fs (key :: next :: rest) v =
      put fs key (.obj (writeAt (inside (getD fs key)) (next :: rest) v)) := rfl

theorem inside_congr {v w : Value} (same : v.meaning = w.meaning) :
    fieldMeanings (inside v) = fieldMeanings (inside w) := by
  by_cases object : ∃ fs, v = .obj fs
  · obtain ⟨fs, rfl⟩ := object
    obtain ⟨gs, rfl⟩ := exists_obj_of_meaning same.symm
    simpa [meaning, inside, fields?] using same
  · have otherwise : ¬ ∃ gs, w = .obj gs := by
      rintro ⟨gs, rfl⟩
      exact object (exists_obj_of_meaning same)
    rw [inside_of_not_obj object, inside_of_not_obj otherwise]

/-- Values that mean the same hold the same at every key path. -/
theorem meaning_lookup_congr {v w : Value} (same : v.meaning = w.meaning) (path : List String) :
    (v.lookup path).meaning = (w.lookup path).meaning := by
  induction path generalizing v w with
  | nil => exact same
  | cons key rest ih =>
    rw [← lookup_inside key rest v, ← lookup_inside key rest w]
    exact ih (meaning_getD_congr (inside_congr same) key)

theorem lookup_writeAt_self (fs : Fields) {path : List String} (nonempty : path ≠ [])
    (v : Value) : lookup path (.obj (writeAt fs path v)) = v := by
  induction path generalizing fs with
  | nil => exact absurd rfl nonempty
  | cons key rest ih =>
    cases rest with
    | nil => simp [lookup]
    | cons next rest =>
      rw [writeAt_cons_cons, lookup, getD_put_self]
      exact ih _ (List.cons_ne_nil next rest)

/-- A write leaves alone what stands at a path that parts from its own. -/
theorem lookup_writeAt_of_apart {path other : List String} (apart : Apart path other) (fs : Fields)
    (v : Value) : lookup other (.obj (writeAt fs path v)) = lookup other (.obj fs) := by
  induction path generalizing fs other with
  | nil => cases other <;> exact apart.elim
  | cons key rest ih =>
    cases other with
    | nil => exact apart.elim
    | cons key' rest' =>
      by_cases equal : key = key'
      · subst equal
        have below : Apart rest rest' := apart.resolve_left (fun h => h rfl)
        cases rest with
        | nil => cases rest' <;> exact below.elim
        | cons next rest =>
          cases rest' with
          | nil => exact below.elim
          | cons next' rest' =>
            rw [writeAt_cons_cons, lookup, getD_put_self, ih below, lookup_inside]
            rfl
      · have kept : ∀ w, getD (put fs key w) key' = getD fs key' := fun w =>
          getD_put_of_ne fs (Ne.symm equal) w
        cases rest <;> simp only [writeAt_singleton, writeAt_cons_cons, lookup, kept]

theorem writeAt_writeAt_self (fs : Fields) (path : List String) (v w : Value) :
    writeAt (writeAt fs path v) path w = writeAt fs path w := by
  induction path generalizing fs with
  | nil => rfl
  | cons key rest ih =>
    cases rest with
    | nil => exact put_put_self fs key v w
    | cons next rest =>
      simp only [writeAt_cons_cons, getD_put_self, put_put_self]
      rw [show inside (.obj (writeAt (inside (getD fs key)) (next :: rest) v)) =
        writeAt (inside (getD fs key)) (next :: rest) v from rfl, ih]

theorem fieldMeanings_writeAt_congr {fs gs : Fields} (same : fieldMeanings fs = fieldMeanings gs)
    (path : List String) {v w : Value} (equal : v.meaning = w.meaning) :
    fieldMeanings (writeAt fs path v) = fieldMeanings (writeAt gs path w) := by
  induction path generalizing fs gs with
  | nil => exact same
  | cons key rest ih =>
    cases rest with
    | nil => exact fieldMeanings_put_congr same key equal
    | cons next rest =>
      apply fieldMeanings_put_congr same
      simp only [meaning, Meaning.obj.injEq]
      exact ih (inside_congr (meaning_getD_congr same key))

/-- Writes at paths that part commute, up to the order of fields. -/
theorem fieldMeanings_writeAt_comm {path other : List String} (apart : Apart path other)
    (fs : Fields) (v w : Value) :
    fieldMeanings (writeAt (writeAt fs path v) other w) =
      fieldMeanings (writeAt (writeAt fs other w) path v) := by
  induction path generalizing fs other with
  | nil => cases other <;> exact apart.elim
  | cons key rest ih =>
    cases other with
    | nil => exact apart.elim
    | cons key' rest' =>
      by_cases equal : key = key'
      · subst equal
        have below : Apart rest rest' := apart.resolve_left (fun h => h rfl)
        cases rest with
        | nil => cases rest' <;> exact below.elim
        | cons next rest =>
          cases rest' with
          | nil => exact below.elim
          | cons next' rest' =>
            simp only [writeAt_cons_cons, getD_put_self, put_put_self]
            apply fieldMeanings_put_congr rfl
            simp only [meaning, Meaning.obj.injEq]
            exact ih below (inside (getD fs key))
      · cases rest <;> cases rest' <;>
          simp only [writeAt_singleton, writeAt_cons_cons, getD_put_of_ne _ equal,
            getD_put_of_ne _ (Ne.symm equal)] <;>
          exact fieldMeanings_put_comm fs equal _ _

/-- Writing what is read there already changes nothing, where something is read. -/
theorem fieldMeanings_writeAt_of_lookup {fs : Fields} {path : List String} {v : Value}
    (same : (lookup path (.obj fs)).meaning = v.meaning) (given : v.meaning ≠ .null) :
    fieldMeanings (writeAt fs path v) = fieldMeanings fs := by
  induction path generalizing fs with
  | nil => rfl
  | cons key rest ih =>
    cases found : get? fs key with
    | none =>
      simp only [lookup, getD, found, Option.getD_none, lookup_null, meaning] at same
      exact absurd same.symm given
    | some w =>
      have read : getD fs key = w := by simp [getD, found]
      rw [lookup, read] at same
      cases rest with
      | nil => exact fieldMeanings_put_of_get? found same
      | cons next rest =>
        cases w with
        | obj gs =>
          rw [writeAt_cons_cons, read]
          apply fieldMeanings_put_of_get? found
          simp only [meaning, Meaning.obj.injEq]
          exact (ih same).symm
        | _ =>
          simp only [lookup, meaning] at same
          exact absurd same.symm given

/-- Metadata that can be written into: absent, or an object. -/
def MetadataOpen (fs : Fields) : Prop := ∀ v, get? fs "metadata" = some v → ∃ ms, v = .obj ms

theorem MetadataOpen.writeAt {fs : Fields} (opened : MetadataOpen fs) {path : List String}
    (below : path ≠ ["metadata"]) (v : Value) : MetadataOpen (writeAt fs path v) := by
  cases path with
  | nil => exact opened
  | cons key rest =>
    intro w found
    by_cases here : key = "metadata"
    · subst here
      cases rest with
      | nil => exact absurd rfl below
      | cons next rest =>
        rw [writeAt_cons_cons, get?_put_self] at found
        exact ⟨_, (Option.some.inj found).symm⟩
    · obtain ⟨u, written⟩ : ∃ u, Fields.writeAt fs (key :: rest) v = put fs key u := by
        cases rest <;> exact ⟨_, rfl⟩
      rw [written, get?_put_of_ne fs (Ne.symm here)] at found
      exact opened w found

end Fields

end MonitoringUpkeep
