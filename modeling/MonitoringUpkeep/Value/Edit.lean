import MonitoringUpkeep.Value.Basic

/-!
# Edits

Changes that some other party makes inside a value: a place is named by keys of objects and
positions in arrays, and what stands there is set, removed, or extended. An edit of a place that
does not exist changes nothing.
-/

namespace MonitoringUpkeep

/-- One step down into a value. -/
inductive Step where
  | key (name : String)
  | index (position : Int)

/-- What an edit does at its place. -/
inductive Change where
  | set (v : Value)
  | append (v : Value)
  | insert (v : Value)
  | delete

/-- A change at a place. -/
structure Edit where
  place : List Step
  change : Change

namespace Edit

/-- The position meant by an index into a list of a given length; a negative one counts from the
    end. -/
def position (length : Nat) (i : Int) : Nat :=
  if 0 ≤ i then i.toNat else (length + i).toNat

def changeAt (change : Change) : Step → Value → Value
  | .key k, .obj fs =>
    match change with
    | .set v => .obj (Fields.put fs k v)
    | .append v =>
      match Fields.get? fs k with
      | some (.arr items) => .obj (Fields.put fs k (.arr (items ++ [v])))
      | _ => .obj fs
    | .insert _ => .obj fs
    | .delete => .obj (Fields.erase fs k)
  | .index i, .arr items =>
    let n := position items.length i
    match change with
    | .set v => .arr (items.set n v)
    | .append v =>
      match items[n]? with
      | some (.arr inner) => .arr (items.set n (.arr (inner ++ [v])))
      | _ => .arr items
    | .insert v => .arr (items.take n ++ v :: items.drop n)
    | .delete => .arr (items.eraseIdx n)
  | _, v => v

def applyAt (change : Change) : List Step → Value → Value
  | [], v =>
    match change, v with
    | .set w, _ => w
    | .append w, .arr items => .arr (items ++ [w])
    | _, _ => v
  | [s], v => changeAt change s v
  | .key k :: s :: rest, .obj fs =>
    match Fields.get? fs k with
    | some inner => .obj (Fields.put fs k (applyAt change (s :: rest) inner))
    | none => .obj fs
  | .index i :: s :: rest, .arr items =>
    let n := position items.length i
    match items[n]? with
    | some inner => .arr (items.set n (applyAt change (s :: rest) inner))
    | none => .arr items
  | _ :: _ :: _, v => v

def apply (e : Edit) (v : Value) : Value := applyAt e.change e.place v

def applyAll (es : List Edit) (v : Value) : Value := es.foldl (fun w e => e.apply w) v

end Edit

end MonitoringUpkeep
