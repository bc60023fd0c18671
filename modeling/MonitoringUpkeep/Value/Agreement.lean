import MonitoringUpkeep.Value.Basic

/-!
# Agreement of values

Two values agree when they have one meaning: the order of fields is forgotten, and numbers count by
the number they stand for, whatever their spelling (`1`, `1.0` and `true` agree). The meaning of a
value is computed by `Value.meaning`, so that agreement is symmetric and transitive by construction,
and reflexive but for what is no number.
-/

namespace MonitoringUpkeep

/-- What a value means, with fields sorted by name and one spelling of each number. -/
inductive Meaning where
  | null
  | number (x : Binary64)
  | text (s : String)
  | arr (items : List Meaning)
  | obj (fields : List (String × Meaning))

namespace Meaning

/-- Writes a field into fields sorted by name, in place of one of that name. -/
def insert (key : String) (m : Meaning) : List (String × Meaning) → List (String × Meaning)
  | [] => [(key, m)]
  | (k, n) :: rest =>
    if key < k then (key, m) :: (k, n) :: rest
    else if key = k then (key, m) :: rest
    else (k, n) :: insert key m rest

mutual

def decEq : (a b : Meaning) → Decidable (a = b)
  | .null, .null => isTrue rfl
  | .number p, .number q =>
    if h : p = q then isTrue (by rw [h]) else isFalse (by simpa using h)
  | .text s, .text t =>
    if h : s = t then isTrue (by rw [h]) else isFalse (by simpa using h)
  | .arr xs, .arr ys =>
    match decEqItems xs ys with
    | isTrue h => isTrue (by rw [h])
    | isFalse h => isFalse (by simpa using h)
  | .obj xs, .obj ys =>
    match decEqFields xs ys with
    | isTrue h => isTrue (by rw [h])
    | isFalse h => isFalse (by simpa using h)
  | .null, .number _ | .null, .text _ | .null, .arr _ | .null, .obj _
  | .number _, .null | .number _, .text _ | .number _, .arr _ | .number _, .obj _
  | .text _, .null | .text _, .number _ | .text _, .arr _ | .text _, .obj _
  | .arr _, .null | .arr _, .number _ | .arr _, .text _ | .arr _, .obj _
  | .obj _, .null | .obj _, .number _ | .obj _, .text _ | .obj _, .arr _ => isFalse (by simp)

def decEqItems : (xs ys : List Meaning) → Decidable (xs = ys)
  | [], [] => isTrue rfl
  | [], _ :: _ => isFalse (by simp)
  | _ :: _, [] => isFalse (by simp)
  | x :: xs, y :: ys =>
    match decEq x y, decEqItems xs ys with
    | isTrue h, isTrue t => isTrue (by rw [h, t])
    | isFalse h, _ => isFalse (by simp [h])
    | _, isFalse t => isFalse (by simp [t])

def decEqFields : (xs ys : List (String × Meaning)) → Decidable (xs = ys)
  | [], [] => isTrue rfl
  | [], _ :: _ => isFalse (by simp)
  | _ :: _, [] => isFalse (by simp)
  | (k, x) :: xs, (l, y) :: ys =>
    if hk : k = l then
      match decEq x y, decEqFields xs ys with
      | isTrue h, isTrue t => isTrue (by rw [hk, h, t])
      | isFalse h, _ => isFalse (by simp [h])
      | _, isFalse t => isFalse (by simp [t])
    else isFalse (by simp [hk])

end

instance : DecidableEq Meaning := decEq

end Meaning

namespace Value

mutual

/-- What a value means. Of several fields of one name the first counts. -/
def meaning : Value → Meaning
  | .null => .null
  | .bool b => .number (.finite (if b then 1 else 0))
  | .int n => .number (.finite n)
  | .real .negativeZero => .number (.finite 0)
  | .real x => .number x
  | .str s => .text s
  | .arr items => .arr (meanings items)
  | .obj fields => .obj (fieldMeanings fields)

def meanings : List Value → List Meaning
  | [] => []
  | v :: vs => meaning v :: meanings vs

/-- What the fields of an object mean, sorted by name. -/
def fieldMeanings : List (String × Value) → List (String × Meaning)
  | [] => []
  | (k, v) :: rest => Meaning.insert k (meaning v) (fieldMeanings rest)

end

/-- Two values agree when they mean the same. What is no number agrees with nothing by itself, but
    arrays and objects that hold it in the same places can agree. -/
def Agrees (a b : Value) : Prop := a.meaning = b.meaning ∧ a.meaning ≠ .number .notANumber

@[inherit_doc Agrees]
instance : HasEquiv Value := ⟨Agrees⟩

instance (a b : Value) : Decidable (a ≈ b) :=
  inferInstanceAs (Decidable (a.meaning = b.meaning ∧ a.meaning ≠ .number .notANumber))

theorem agrees_iff {a b : Value} :
    a ≈ b ↔ a.meaning = b.meaning ∧ a.meaning ≠ .number .notANumber := Iff.rfl

theorem Agrees.refl {a : Value} (h : a.meaning ≠ .number .notANumber) : a ≈ a := ⟨rfl, h⟩

theorem Agrees.symm {a b : Value} (h : a ≈ b) : b ≈ a := ⟨h.1.symm, fun k => h.2 (h.1.trans k)⟩

theorem Agrees.trans {a b c : Value} (h : a ≈ b) (k : b ≈ c) : a ≈ c := ⟨h.1.trans k.1, h.2⟩

end Value

end MonitoringUpkeep
