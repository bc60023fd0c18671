import Mathlib.Data.List.Forall2
import MonitoringUpkeep.Value.Access

/-!
# Readings that end well or not

What follows of a value when a part of it could be read, and where a chain of readings fails.
-/

namespace MonitoringUpkeep

/-- A chain of computations ends well exactly where its parts do. -/
theorem bind_ok_iff {α β : Type} {x : Except Failure α} {next : α → Except Failure β} {b : β} :
    (x >>= next) = .ok b ↔ ∃ a, x = .ok a ∧ next a = .ok b := by
  cases x with
  | error f => exact ⟨nofun, fun ⟨_, fails, _⟩ => nomatch fails⟩
  | ok a =>
    constructor
    · exact fun chained => ⟨a, rfl, chained⟩
    · rintro ⟨_, same, chained⟩
      cases same
      exact chained

/-- A chain of computations fails exactly where one of its parts does after the others end well. -/
theorem bind_error_iff {α β : Type} {x : Except Failure α} {next : α → Except Failure β} {f : Failure} :
    (x >>= next) = .error f ↔ x = .error f ∨ ∃ a, x = .ok a ∧ next a = .error f := by
  cases x with
  | error g =>
    refine ⟨fun failed => .inl (congrArg Except.error (Except.error.inj failed)), ?_⟩
    rintro (same | ⟨_, ends, _⟩)
    · exact congrArg Except.error (Except.error.inj same)
    · cases ends
  | ok a =>
    refine ⟨fun failed => .inr ⟨a, rfl, failed⟩, ?_⟩
    rintro (fails | ⟨_, same, failed⟩)
    · cases fails
    · cases same
      exact failed

theorem pure_ok_iff {α : Type} {a b : α} : (pure a : Except Failure α) = .ok b ↔ a = b :=
  ⟨fun same => Except.ok.inj same, fun same => congrArg Except.ok same⟩

/-- A list of computations ends well exactly where each does. -/
theorem mapM_ok_iff {α β : Type} {step : α → Except Failure β} {items : List α} {bs : List β} :
    items.mapM step = .ok bs ↔ List.Forall₂ (fun a b => step a = .ok b) items bs := by
  induction items generalizing bs with
  | nil =>
    rw [List.mapM_nil, pure_ok_iff, List.forall₂_nil_left_iff, eq_comm]
  | cons a rest ih =>
    simp only [List.mapM_cons, bind_ok_iff, pure_ok_iff, List.forall₂_cons_left_iff, ih]
    constructor
    · rintro ⟨b, first, others, made, rfl⟩
      exact ⟨b, others, first, made, rfl⟩
    · rintro ⟨b, others, first, made, rfl⟩
      exact ⟨b, first, others, made, rfl⟩

namespace Value

theorem member_ok_iff {v : Value} {key : String} {part : Value} :
    v.member key = .ok part ↔ ∃ fs, v = .obj fs ∧ Fields.getD fs key = part := by
  cases v <;> simp [member]

/-- A value that stands in for another is that one, or the other does not count as given. -/
theorem orElse_cases (v other : Value) : v.orElse other = v ∨ v.isBlank ∧ v.orElse other = other := by
  by_cases blank : v.isBlank <;> simp [orElse, blank]

/-- Items among which there is an object are those of an array. -/
theorem arr_of_items {v item : Value} {items : List Value} (read : v.items = .ok items)
    (member : item ∈ items) (object : ∃ fs, item = .obj fs) : v = .arr items := by
  obtain ⟨fs, rfl⟩ := object
  cases v with
  | arr vs => rw [Except.ok.inj read]
  | obj gs | str s =>
    cases read
    obtain ⟨_, _, same⟩ := List.mem_map.mp member
    cases same
  | _ => cases read

/-- A list of objects that is read from a field of a field stands there, even where what does not
    count as given is read as empty. -/
theorem lookup_of_items {v outer listed item : Value} {first second : String} {items : List Value}
    (reached : v.member first = .ok outer)
    (found : (outer.orElse (.obj [])).member second = .ok listed)
    (read : (listed.orElse (.arr [])).items = .ok items) (member : item ∈ items)
    (object : ∃ fs, item = .obj fs) : v.lookup [first, second] = .arr items := by
  obtain ⟨fs, rfl, rfl⟩ := member_ok_iff.mp reached
  obtain ⟨gs, inside, rfl⟩ := member_ok_iff.mp found
  have given : items ≠ [] := List.ne_nil_of_mem member
  have all := arr_of_items read member object
  rcases orElse_cases (Fields.getD gs second) (.arr []) with itself | ⟨_, instead⟩
  · rcases orElse_cases (Fields.getD fs first) (.obj []) with whole | ⟨_, none⟩
    · rw [whole] at inside
      rw [itself] at all
      simp only [lookup, inside, all]
    · rw [none] at inside
      cases inside
      cases all
      exact absurd rfl given
  · rw [instead] at all
    cases all
    exact absurd rfl given

end Value

end MonitoringUpkeep
