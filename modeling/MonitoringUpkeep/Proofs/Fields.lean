import Mathlib.Data.String.Basic
import MonitoringUpkeep.Value.Agreement

/-!
# Fields and their meaning

The meaning of an object lists its fields by name, so writing a field of the object is inserting its
meaning there. Two objects that mean the same therefore answer every look-up alike, and what one
write leaves behind does not depend on the order in which other fields were written.
-/

namespace MonitoringUpkeep

namespace Meaning

/-- A second insertion under a name undoes the first. -/
theorem insert_insert (key : String) (m n : Meaning) (fs : List (String × Meaning)) :
    insert key m (insert key n fs) = insert key m fs := by
  induction fs with
  | nil => simp [insert]
  | cons f rest ih =>
    obtain ⟨k, x⟩ := f
    rcases lt_trichotomy key k with below | rfl | above
    · simp only [insert, below, if_true, lt_irrefl, if_false]
    · simp only [insert, lt_irrefl, if_false, if_true]
    · have notBelow : ¬ key < k := not_lt_of_gt above
      have different : key ≠ k := ne_of_gt above
      simp only [insert, notBelow, different, if_false, ih]

private theorem insert_comm_of_lt {key other : String} (below : key < other) (m n : Meaning)
    (fs : List (String × Meaning)) :
    insert key m (insert other n fs) = insert other n (insert key m fs) := by
  have notAbove : ¬ other < key := not_lt_of_gt below
  have different : other ≠ key := ne_of_gt below
  induction fs with
  | nil => simp only [insert, below, notAbove, different, if_true, if_false]
  | cons f rest ih =>
    obtain ⟨k, x⟩ := f
    rcases lt_trichotomy key k with h | rfl | h
    · rcases lt_trichotomy other k with g | rfl | g
      · simp only [insert, h, g, below, notAbove, different, if_true, if_false]
      · simp only [insert, h, lt_irrefl, notAbove, different, if_true, if_false]
      · simp only [insert, h, not_lt_of_gt g, ne_of_gt g, notAbove, different, if_true, if_false]
    · simp only [insert, notAbove, different, lt_irrefl, if_true, if_false]
    · have g : k < other := h.trans below
      simp only [insert, not_lt_of_gt h, not_lt_of_gt g, ne_of_gt h, ne_of_gt g, if_false, ih]

/-- Insertions under two names commute. -/
theorem insert_comm {key other : String} (different : key ≠ other) (m n : Meaning)
    (fs : List (String × Meaning)) :
    insert key m (insert other n fs) = insert other n (insert key m fs) := by
  rcases lt_or_gt_of_ne different with below | above
  · exact insert_comm_of_lt below m n fs
  · exact (insert_comm_of_lt above n m fs).symm

/-- The meaning of the field of a name. -/
def field? : List (String × Meaning) → String → Option Meaning
  | [], _ => none
  | (k, m) :: rest, key => if k = key then some m else field? rest key

theorem field?_insert_self (key : String) (m : Meaning) (fs : List (String × Meaning)) :
    field? (insert key m fs) key = some m := by
  induction fs with
  | nil => simp [insert, field?]
  | cons f rest ih =>
    obtain ⟨k, x⟩ := f
    rcases lt_trichotomy key k with h | rfl | h
    · simp only [insert, h, if_true, field?]
    · simp only [insert, lt_irrefl, if_true, if_false, field?]
    · simp only [insert, not_lt_of_gt h, ne_of_gt h, if_false, field?, ne_of_lt h, ih]

theorem field?_insert_of_ne {key other : String} (different : other ≠ key) (m : Meaning)
    (fs : List (String × Meaning)) : field? (insert key m fs) other = field? fs other := by
  induction fs with
  | nil => simp [insert, field?, different.symm]
  | cons f rest ih =>
    obtain ⟨k, x⟩ := f
    rcases lt_trichotomy key k with h | rfl | h
    · simp only [insert, h, if_true, field?, different.symm, if_false]
    · simp only [insert, lt_irrefl, if_true, if_false, field?, different.symm]
    · simp only [insert, not_lt_of_gt h, ne_of_gt h, if_false, field?, ih]

end Meaning

/-- Integers agree where they are the same. -/
theorem Value.int_agrees_iff {m n : Int} : Value.int m ≈ Value.int n ↔ m = n := by
  simp [Value.agrees_iff, Value.meaning]

/-- Objects agree where their fields mean the same. -/
theorem Value.obj_agrees {fs gs : Fields} (same : fieldMeanings fs = fieldMeanings gs) :
    Value.obj fs ≈ Value.obj gs := by
  simp [Value.agrees_iff, Value.meaning, same]

namespace Fields
open Value

theorem put_put_self (fs : Fields) (key : String) (v w : Value) :
    put (put fs key v) key w = put fs key w := by
  induction fs with
  | nil => simp [put]
  | cons f rest ih =>
    obtain ⟨k, x⟩ := f
    by_cases h : k = key <;> simp [put, h, ih]

@[simp] theorem getD_put_self (fs : Fields) (key : String) (v : Value) :
    getD (put fs key v) key = v := by simp [getD, get?_put_self]

theorem getD_put_of_ne (fs : Fields) {key other : String} (h : other ≠ key) (v : Value) :
    getD (put fs key v) other = getD fs other := by simp [getD, get?_put_of_ne fs h]

/-- What is written in a field is inserted into the meaning. -/
theorem fieldMeanings_put (fs : Fields) (key : String) (v : Value) :
    fieldMeanings (put fs key v) = Meaning.insert key v.meaning (fieldMeanings fs) := by
  induction fs with
  | nil => rfl
  | cons f rest ih =>
    obtain ⟨k, w⟩ := f
    by_cases h : k = key
    · subst h
      simp only [put, if_true, fieldMeanings, Meaning.insert_insert]
    · simp only [put, h, if_false, fieldMeanings, ih]
      exact Meaning.insert_comm h w.meaning v.meaning _

/-- What is looked up in the meaning is the meaning of what is looked up. -/
theorem field?_fieldMeanings (fs : Fields) (key : String) :
    Meaning.field? (fieldMeanings fs) key = (get? fs key).map meaning := by
  induction fs with
  | nil => rfl
  | cons f rest ih =>
    obtain ⟨k, w⟩ := f
    by_cases h : k = key
    · subst h
      simp only [fieldMeanings, Meaning.field?_insert_self, get?, if_true, Option.map_some]
    · have different : key ≠ k := fun e => h e.symm
      simp only [fieldMeanings, Meaning.field?_insert_of_ne different, get?, h, if_false, ih]

/-- Fields that mean the same hold the same under every name. -/
theorem meaning_getD_congr {fs gs : Fields} (same : fieldMeanings fs = fieldMeanings gs)
    (key : String) : (getD fs key).meaning = (getD gs key).meaning := by
  have found : (get? fs key).map meaning = (get? gs key).map meaning := by
    rw [← field?_fieldMeanings, ← field?_fieldMeanings, same]
  unfold getD
  cases hf : get? fs key <;> cases hg : get? gs key <;> simp_all

theorem fieldMeanings_put_congr {fs gs : Fields} (same : fieldMeanings fs = fieldMeanings gs)
    (key : String) {v w : Value} (equal : v.meaning = w.meaning) :
    fieldMeanings (put fs key v) = fieldMeanings (put gs key w) := by
  rw [fieldMeanings_put, fieldMeanings_put, same, equal]

theorem fieldMeanings_put_comm (fs : Fields) {key other : String} (different : key ≠ other)
    (v w : Value) :
    fieldMeanings (put (put fs key v) other w) = fieldMeanings (put (put fs other w) key v) := by
  simp only [fieldMeanings_put]
  exact Meaning.insert_comm different.symm _ _ _

/-- Writing what is there already changes nothing. -/
theorem fieldMeanings_put_of_get? {fs : Fields} {key : String} {v w : Value}
    (found : get? fs key = some w) (equal : w.meaning = v.meaning) :
    fieldMeanings (put fs key v) = fieldMeanings fs := by
  induction fs with
  | nil => simp [get?] at found
  | cons f rest ih =>
    obtain ⟨k, x⟩ := f
    by_cases h : k = key
    · obtain rfl : x = w := by simpa [get?, h] using found
      simp only [put, h, if_true, fieldMeanings, equal]
    · have tail : get? rest key = some w := by simpa [get?, h] using found
      simp only [put, h, if_false, fieldMeanings, ih tail]

theorem get?_append (fs gs : Fields) (key : String) :
    get? (fs ++ gs) key = (get? fs key).or (get? gs key) := by
  induction fs with
  | nil => rfl
  | cons f rest ih =>
    obtain ⟨k, v⟩ := f
    by_cases same : k = key <;> simp [get?, same, ih]

end Fields

end MonitoringUpkeep
