import MonitoringUpkeep.Proofs.PathFrame
import MonitoringUpkeep.Value.Access

/-!
# Laws of key paths

Reading and writing at key paths obey the laws of independent places, whatever the object holds: what was
written is read, another write at the same place covers it, and at paths that part the two know nothing
of each other. What stands in the way of a write, absent or no object, makes place for an object.
-/

namespace MonitoringUpkeep.Value
open Fields

/-- A write into an object goes through at every path but the empty one. -/
theorem assign_obj (fs : Fields) {path : List String} (somewhere : path ≠ []) (v : Value) :
    (Value.obj fs).assign path v = .ok (.obj (writeAt fs path v)) := by
  cases path with
  | nil => exact absurd rfl somewhere
  | cons key rest => rfl

/-- What is found at a path is read there. -/
theorem lookup_of_seek? {path : List String} {v w : Value} (found : v.seek? path = some w) :
    v.lookup path = w := by
  induction path generalizing v with
  | nil => exact Option.some.inj ((seek?_nil v).symm.trans found)
  | cons key rest ih =>
    cases v with
    | obj fs =>
      cases there : get? fs key with
      | none => simp [seek?, there] at found
      | some child =>
        simp only [seek?, there] at found
        simpa [lookup, getD, there] using ih found
    | _ => cases found

/-- A write at a path of an object goes through; what was written is read there, and objects stand on
    the way to it. A second write at the same path leaves no trace of the first. At a path that neither
    leads to nor through the written one, there is read what was read before, and writes at both come
    to the same in either order. -/
theorem assign_lawful (fs : Fields) {p q : List String} (somewhere : p ≠ []) (elsewhere : q ≠ [])
    (v w : Value) : ∃ written, (Value.obj fs).assign p v = .ok written ∧
      written.lookup p = v ∧
      (∀ way, way <+: p → way ≠ p → ∃ ms, written.lookup way = .obj ms) ∧
      written.assign p w = (Value.obj fs).assign p w ∧
      (¬ p <+: q → ¬ q <+: p → written.lookup q = (Value.obj fs).lookup q ∧
        ∃ other first second, (Value.obj fs).assign q w = .ok other ∧
          written.assign q w = .ok first ∧ other.assign p v = .ok second ∧ first ≈ second) := by
  refine ⟨.obj (writeAt fs p v), assign_obj fs somewhere v, lookup_writeAt_self fs somewhere v,
    ?_, ?_, ?_⟩
  · intro way before short
    obtain ⟨ms, found⟩ := seek?_writeAt_way before short fs v
    exact ⟨ms, lookup_of_seek? found⟩
  · rw [assign_obj _ somewhere, assign_obj _ somewhere, writeAt_writeAt_self]
  · intro notBefore notBehind
    have apart : Apart p q := apart_iff.mpr ⟨notBefore, notBehind⟩
    exact ⟨lookup_writeAt_of_apart apart fs v, _, _, _, assign_obj fs elsewhere w,
      assign_obj _ elsewhere w, assign_obj _ somewhere v,
      obj_agrees (fieldMeanings_writeAt_comm apart fs v w)⟩

/-- The ports and the selector of a service with a number as its specification. -/
theorem assign_lawful_numeric :
    let observed : Fields := [("kind", "Service"), ("spec", .int 7)]
    let ports := ["spec", "ports"]
    let selector := ["spec", "selector", "name"]
    ports ≠ [] ∧ selector ≠ [] ∧ ¬ ports <+: selector ∧ ¬ selector <+: ports ∧
      ∃ written, (Value.obj observed).assign ports (.arr []) = .ok written ∧
        written.lookup ports = .arr [] ∧ written.lookup selector = .null ∧
        ∃ other first second, (Value.obj observed).assign selector "operator" = .ok other ∧
          written.assign selector "operator" = .ok first ∧ other.assign ports (.arr []) = .ok second ∧
          first ≈ second := by
  intro observed ports selector
  have notBefore : ¬ ports <+: selector := by decide
  have notBehind : ¬ selector <+: ports := by decide
  obtain ⟨written, went, read, -, -, apart⟩ := assign_lawful observed (p := ports) (q := selector)
    (List.cons_ne_nil _ _) (List.cons_ne_nil _ _) (.arr []) "operator"
  obtain ⟨kept, commute⟩ := apart notBefore notBehind
  exact ⟨List.cons_ne_nil _ _, List.cons_ne_nil _ _, notBefore, notBehind, written, went, read, kept,
    commute⟩

end MonitoringUpkeep.Value
