import MonitoringUpkeep.Proofs.GateKeeping
import MonitoringUpkeep.Proofs.PathFrame
import MonitoringUpkeep.Proofs.Pending

/-!
# The gate in a store

The patch of the gate goes through the names of its path one by one, and so does the reading of the gate.
Both agree on every shape of a cluster object: the patch writes the gate, and the objects on the way to it
where they are absent, or it fails and leaves the store as it was; and the gate is read as it was
written.
-/

namespace MonitoringUpkeep

namespace Fields

/-- Writing what stands there already changes nothing. -/
theorem put_of_get? {fs : Fields} {key : String} {v : Value} (found : get? fs key = some v) :
    put fs key v = fs := by
  induction fs with
  | nil => cases found
  | cons f rest ih =>
    obtain ⟨k, w⟩ := f
    by_cases here : k = key
    · have same : w = v := by simpa [get?, here] using found
      simp [put, here, same]
    · have below : get? rest key = some v := by simpa [get?, here] using found
      simp [put, here, ih below]

theorem put_ne_nil (fs : Fields) (key : String) (v : Value) : put fs key v ≠ [] := by
  intro empty
  have found := get?_put_self fs key v
  rw [empty] at found
  cases found

end Fields

namespace Store
open Value Fields

/-- Writing what is found already changes nothing. -/
theorem write_found {s : Store} {key : StoreKey} {v : Value} (found : s.find? key = some v) :
    s.write key v = s := by
  obtain ⟨entries, version⟩ := s
  have same : writeEntry key v entries = entries := by
    induction entries with
    | nil => cases found
    | cons e rest ih =>
      obtain ⟨k, w⟩ := e
      by_cases here : k.same key
      · have equal : w = v := by simpa [find?, here] using found
        simp [writeEntry, here, equal]
      · have below : (Store.mk rest version).find? key = some v := by
          simpa [find?, here] using found
        simp [writeEntry, here, ih below]
  simp only [write, same]

/-- In an object without fields a value is written at any path. -/
theorem patchAt_empty (w : Value) {names : List String} (nonempty : names ≠ []) :
    patchAt (.ok w) names (.obj []) = (.obj (writeAt [] names w), none) := by
  induction names with
  | nil => exact absurd rfl nonempty
  | cons key rest ih =>
    cases rest with
    | nil => rfl
    | cons next rest =>
      have below := ih (List.cons_ne_nil next rest)
      simp only [patchAt, get?, Option.getD_none, below]
      rfl

/-- A value is written at its path, where objects stand on the way to it or nothing does, or nothing is
    changed. -/
theorem patchAt_cases (w : Value) {names : List String} (nonempty : names ≠ []) (v : Value) :
    (∃ f, patchAt (.ok w) names v = (v, some f)) ∨
      ∃ fs, v = .obj fs ∧ Passable (fun _ _ => False) names v ∧
        patchAt (.ok w) names v = (.obj (writeAt fs names w), none) := by
  induction names generalizing v with
  | nil => exact absurd rfl nonempty
  | cons key rest ih =>
    cases v with
    | obj fs =>
      cases rest with
      | nil => exact .inr ⟨fs, rfl, passable_singleton (.inl ⟨fs, rfl⟩), rfl⟩
      | cons next rest =>
        cases found : get? fs key with
        | none =>
          -- The objects on the way are new, so that nothing can stand in the way.
          have below := patchAt_empty w (List.cons_ne_nil next rest)
          refine .inr ⟨fs, rfl, passable_obj ?_, ?_⟩
          · rw [found]
            nofun
          · simp [patchAt, found, below, getD, inside, fields?]
        | some child =>
          rcases ih (List.cons_ne_nil next rest) child with ⟨f, fails⟩ | ⟨gs, rfl, passable, written⟩
          · refine .inl ⟨f, ?_⟩
            simp only [patchAt, found, Option.getD_some, fails, put_of_get? found]
          · refine .inr ⟨fs, rfl, passable_obj ?_, ?_⟩
            · rw [found]
              rintro _ ⟨⟩
              exact passable
            · simp [patchAt, found, written, getD, inside, fields?]
    | _ => cases rest <;> exact .inl ⟨_, rfl⟩

end Store

namespace Gate
open Value Fields

/-- Where the gate stands in the cluster object. -/
def path : List String := ["spec", "featureGates", field]

/-- What is read as the gate of a cluster object. -/
def reading (cluster : Value) : Except Failure Bool := do
  let spec ← cluster.member "spec"
  let gates ← (spec.orElse (.obj [])).member "featureGates"
  let gate ← (gates.orElse (.obj [])).member field
  return !gate.isBlank

theorem applyOperations_gate (enable v : Value) :
    Store.applyOperations [.obj [("op", "replace"), ("path", .str ("/spec/featureGates/" ++ field)),
      ("value", enable)]] v = Store.patchAt (.ok enable) path v := by
  have names : Store.pathNames (.str ("/spec/featureGates/" ++ field)) = .ok path := rfl
  have applied : Store.applyOperation (.obj [("op", "replace"),
      ("path", .str ("/spec/featureGates/" ++ field)), ("value", enable)]) v =
        Store.patchAt (.ok enable) path v := by
    simp [Store.applyOperation, part, get?, bind, Except.bind, names]
  rw [Store.applyOperations, applied]
  rcases Store.patchAt (.ok enable) path v with ⟨v', _ | f⟩ <;> rfl

/-- The patch of the gate fails and leaves the store as it was, or it writes the gate and leaves all
    else. -/
theorem patch_cases (s : Store) {name space : Value} {key : StoreKey}
    (given : StoreKey.of .hyperConverged name space = .ok key) (enable : Value) :
    (∃ f, s.patch .hyperConverged name (operations enable) space = (.error f, s)) ∨
      ∃ fs, s.find? key = some (.obj fs) ∧ Passable (fun _ _ => False) path (.obj fs) ∧
        s.patch .hyperConverged name (operations enable) space =
          (.ok (.obj (writeAt fs path enable)), s.write key (.obj (writeAt fs path enable))) := by
  cases found : s.find? key with
  | none => exact .inl ⟨.notFound, by simp only [Store.patch, given, found]⟩
  | some v =>
    have nonempty : path ≠ [] := List.cons_ne_nil _ _
    rcases Store.patchAt_cases enable nonempty v with
      ⟨f, fails⟩ | ⟨fs, rfl, passable, written⟩
    · refine .inl ⟨f, ?_⟩
      simp only [Store.patch, given, found, operations, items, applyOperations_gate, fails,
        Store.write_found found]
    · refine .inr ⟨fs, rfl, passable, ?_⟩
      simp only [Store.patch, given, found, operations, items, applyOperations_gate, written]

/-- The gate is read as it was written. -/
theorem reading_written (fs : Fields) (enable : Value) :
    reading (.obj (writeAt fs path enable)) = .ok !enable.isBlank := by
  have kept (fs : Fields) (key : String) (v other : Value) :
      (Value.obj (put fs key v)).orElse other = .obj (put fs key v) := by
    have given : (Value.obj (put fs key v)).isBlank = false := by
      simpa [isBlank] using put_ne_nil fs key v
    simp [orElse, given]
  simp [reading, path, member, getD_put_self, kept, bind, Except.bind, pure, Except.pure]

variable {ω : Type} (g : Gate)

/-- Whether the gate is enabled is read from one look at the cluster object. -/
theorem isEnabled_eq (env : Environment ω) : g.isEnabled env =
    env.send g.clusterLook >>= fun v => Action.ofExcept (reading v) := by
  simp only [reading, Action.ofExcept_bind]
  rfl

/-- What is made of a reply to the look. -/
theorem isEnabled_look (env : Environment ω) (w : ω) : g.isEnabled env w =
    ⟨match (env.reply g.clusterLook w).1 >>= reading with
      | .ok enabled => .done enabled
      | .error f => .failed f,
      [.call g.clusterLook (env.reply g.clusterLook w).1], (env.reply g.clusterLook w).2⟩ := by
  rw [isEnabled_eq]
  rcases looked : env.reply g.clusterLook w with ⟨reply, w'⟩
  cases reply with
  | error f => exact Action.bind_failed (Environment.send_failed looked) _
  | ok v =>
    rw [Action.bind_done (Environment.send_done looked)]
    change _ = Outcome.mk (match reading v with
      | .ok enabled => .done enabled
      | .error f => .failed f) _ _
    cases reading v <;> rfl

theorem isEnabled_found {env : Environment ω} {w : ω} {v : Value} {enabled : Bool}
    (reply : (env.reply g.clusterLook w).1 = .ok v) (read : reading v = .ok enabled) :
    g.isEnabled env w =
      ⟨.done enabled, [.call g.clusterLook (.ok v)], (env.reply g.clusterLook w).2⟩ := by
  have given : (.ok v >>= reading) = .ok enabled := read
  rw [isEnabled_look, reply, given]

theorem isEnabled_done_iff (env : Environment ω) (w : ω) (enabled : Bool) :
    (g.isEnabled env w).ending = .done enabled ↔
      ∃ v, (env.reply g.clusterLook w).1 = .ok v ∧ reading v = .ok enabled := by
  rw [isEnabled_look]
  cases (env.reply g.clusterLook w).1 with
  | error f => exact ⟨nofun, nofun⟩
  | ok v =>
    change (match reading v with
      | .ok enabled => Ending.done enabled
      | .error f => .failed f) = .done enabled ↔ _
    cases read : reading v with
    | error f =>
      refine ⟨nofun, ?_⟩
      rintro ⟨_, ⟨⟩, reads⟩
      cases read.symm.trans reads
    | ok found =>
      constructor
      · rintro ⟨⟩
        exact ⟨v, rfl, read⟩
      · rintro ⟨_, ⟨⟩, reads⟩
        cases read.symm.trans reads
        rfl

end Gate

end MonitoringUpkeep
