import MonitoringUpkeep.Number.Binary64

/-!
# Values

Cluster objects are trees of JSON data. An object keeps its fields in the order in which they were
first written, and a field that is written again keeps its place.
-/

namespace MonitoringUpkeep

/-- A tree of JSON data. -/
inductive Value where
  | null
  | bool (b : Bool)
  | int (n : Int)
  | real (x : Binary64)
  | str (s : String)
  | arr (items : List Value)
  | obj (fields : List (String × Value))

/-- The fields of an object, in the order of their first writing. -/
abbrev Fields := List (String × Value)

namespace Fields

def get? : Fields → String → Option Value
  | [], _ => none
  | (k, v) :: rest, key => if k = key then some v else get? rest key

def has (fs : Fields) (key : String) : Bool := (get? fs key).isSome

/-- The value of a field, null where there is none. -/
def getD (fs : Fields) (key : String) : Value := (get? fs key).getD .null

/-- Writes a field in its place, or at the end where there is none of that name. -/
def put : Fields → String → Value → Fields
  | [], key, v => [(key, v)]
  | (k, w) :: rest, key, v => if k = key then (k, v) :: rest else (k, w) :: put rest key v

def erase : Fields → String → Fields
  | [], _ => []
  | (k, w) :: rest, key => if k = key then erase rest key else (k, w) :: erase rest key

theorem get?_put_self (fs : Fields) (key : String) (v : Value) :
    get? (put fs key v) key = some v := by
  induction fs with
  | nil => simp [put, get?]
  | cons f rest ih =>
    obtain ⟨k, w⟩ := f
    by_cases h : k = key <;> simp [put, get?, h, ih]

theorem get?_put_of_ne (fs : Fields) {key other : String} (h : other ≠ key) (v : Value) :
    get? (put fs key v) other = get? fs other := by
  induction fs with
  | nil => simp [put, get?, h.symm]
  | cons f rest ih =>
    obtain ⟨k, w⟩ := f
    by_cases hk : k = key
    · subst hk
      simp [put, get?, h.symm]
    · by_cases ho : k = other
      · subst ho
        simp [put, get?, hk]
      · simp [put, get?, hk, ho, ih]

end Fields

namespace Value

instance : Inhabited Value := ⟨.null⟩
instance : Coe String Value := ⟨.str⟩

/-- A number that is no integer literal, rounded to the 64-bit format. -/
def ofRat (q : Rat) : Value := .real (Binary64.ofRat q)

/-- The values that do not count as given: null, false, zero, and what is empty. -/
def isBlank : Value → Bool
  | .null => true
  | .bool b => !b
  | .int n => n == 0
  | .real x => x.isZero
  | .str s => s.isEmpty
  | .arr items => items.isEmpty
  | .obj fields => fields.isEmpty

/-- The value, or another one where it does not count as given. -/
def orElse (v other : Value) : Value := if v.isBlank then other else v

/-- The kinds of data, as named in complaints about a value of the wrong kind. -/
def typeName : Value → String
  | .null => "NoneType"
  | .bool _ => "bool"
  | .int _ => "int"
  | .real _ => "float"
  | .str _ => "str"
  | .arr _ => "list"
  | .obj _ => "dict"

/-- The fields of an object; nothing for any other value. -/
def fields? : Value → Option Fields
  | .obj fs => some fs
  | _ => none

def isObject (v : Value) : Bool := v.fields?.isSome

end Value

end MonitoringUpkeep
