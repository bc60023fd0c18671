import MonitoringUpkeep.Store.Selector
import MonitoringUpkeep.Trace

/-!
# The store of cluster objects

Objects are kept under their kind, namespace and name, in the order in which they were first put
there. Every whole write stamps the object with the next number of a counter. An operation that
fails leaves the objects as they were, unless it is a patch, whose operations take effect one by
one.
-/

namespace MonitoringUpkeep

/-- What an object is kept under. -/
structure StoreKey where
  kind : Kind
  /-- the namespace, null for an object without one -/
  space : Value
  name : Value

namespace StoreKey

/-- Whether two keys are the same, names compared by what they mean. -/
def same (a b : StoreKey) : Bool :=
  decide (a.kind = b.kind) && decide (a.space.meaning = b.space.meaning)
    && decide (a.name.meaning = b.name.meaning)

/-- Only a value without parts can be part of a key. -/
def checkPart (v : Value) : Except Failure Unit :=
  match v with
  | .arr _ | .obj _ => .error (.misfit (.notAKey v.typeName))
  | _ => .ok ()

/-- The key of a kind, name and namespace; an empty namespace is none. -/
def of (kind : Kind) (name space : Value) : Except Failure StoreKey := do
  let space := space.orElse .null
  checkPart space
  checkPart name
  return { kind, space, name }

/-- The key under which an object is kept. -/
def ofObject (kind : Kind) (v : Value) : Except Failure StoreKey := do
  let metadata ← v.metadata
  let name ← metadata.part "name"
  of kind name (← metadata.member "namespace")

end StoreKey

/-- The objects of a cluster. -/
structure Store where
  entries : List (StoreKey × Value) := []
  /-- the number of the last stamp -/
  version : Nat := 0

namespace Store

/-- The object under a key. -/
def find? (s : Store) (key : StoreKey) : Option Value :=
  (s.entries.find? fun e => e.1.same key).map Prod.snd

/-- Writes an object under its key, in its place or at the end. -/
def writeEntry (key : StoreKey) (v : Value) : List (StoreKey × Value) → List (StoreKey × Value)
  | [] => [(key, v)]
  | (k, w) :: rest => if k.same key then (k, v) :: rest else (k, w) :: writeEntry key v rest

/-- The store with an object under a key. -/
def write (s : Store) (key : StoreKey) (v : Value) : Store :=
  { s with entries := writeEntry key v s.entries }

/-- An object with a stamp in its metadata, which are created where they are absent. -/
def stamped (v : Value) (version : Nat) : Except Failure Value :=
  match v with
  | .obj fs => do
    let metadata := (Fields.get? fs "metadata").getD (.obj [])
    let metadata ← metadata.withPart "resourceVersion" (.str (toString version))
    return .obj (Fields.put fs "metadata" metadata)
  | v => .error (.noMember v "setdefault")

/-- Stamps an object and writes it under the key that its metadata give. The counter goes on even
    where that fails. -/
def put (s : Store) (kind : Kind) (v : Value) : Except Failure Unit × Store :=
  let s := { s with version := s.version + 1 }
  match stamped v s.version with
  | .error f => (.error f, s)
  | .ok v =>
    match StoreKey.ofObject kind v with
    | .error f => (.error f, s)
    | .ok key => (.ok (), s.write key v)

/-- Removes the object under a key, if there is one. -/
def delete (s : Store) (kind : Kind) (name space : Value) : Except Failure Unit × Store :=
  match StoreKey.of kind name space with
  | .error f => (.error f, s)
  | .ok key => (.ok (), { s with entries := s.entries.filter fun e => !e.1.same key })

/-- Changes the object under a key in its place, without a stamp. -/
def modify (s : Store) (kind : Kind) (name space : Value) (f : Value → Value) :
    Except Failure Unit × Store :=
  match StoreKey.of kind name space with
  | .error e => (.error e, s)
  | .ok key =>
    match s.find? key with
    | none => (.error (.missingObject kind key.space key.name), s)
    | some v => (.ok (), s.write key (f v))

/-- Reads an object. -/
def get (s : Store) (kind : Kind) (name space : Value) : Reply := do
  match s.find? (← StoreKey.of kind name space) with
  | some v => return v
  | none => throw .notFound

/-- Writes an object that is, or is not, there already. -/
def writeWhole (s : Store) (kind : Kind) (body : Value) (present : Bool) (refusal : Failure) :
    Reply × Store :=
  match StoreKey.ofObject kind body with
  | .error f => (.error f, s)
  | .ok key =>
    if (s.find? key).isSome = present then
      match s.put kind body with
      | (.error f, s) => (.error f, s)
      | (.ok (), s) => (.ok ((s.find? key).getD .null), s)
    else (.error refusal, s)

/-- Writes an object that is not there yet. -/
def create (s : Store) (kind : Kind) (body : Value) : Reply × Store :=
  s.writeWhole kind body false .alreadyExists

/-- Writes an object in the place of the one that is there. -/
def update (s : Store) (kind : Kind) (body : Value) : Reply × Store :=
  s.writeWhole kind body true .notFound

/-- Writes the status of an object and nothing else of it. -/
def updateStatus (s : Store) (kind : Kind) (body : Value) : Reply × Store :=
  match StoreKey.ofObject kind body with
  | .error f => (.error f, s)
  | .ok key =>
    match s.find? key with
    | none => (.error .notFound, s)
    | some v =>
      match body.member "status" >>= v.withPart "status" with
      | .error f => (.error f, s)
      | .ok v => (.ok v, s.write key v)

/-- Writes a value at the names of a path, creating the objects on the way; where that fails, the
    objects created so far stay. -/
def patchAt (w : Except Failure Value) : List String → Value → Value × Option Failure
  | [], v => (v, none)
  | [last], v =>
    match w >>= v.withPart last with
    | .ok v => (v, none)
    | .error f => (v, some f)
  | key :: next :: rest, .obj fs =>
    let (child, failure) := patchAt w (next :: rest) ((Fields.get? fs key).getD (.obj []))
    (.obj (Fields.put fs key child), failure)
  | _ :: _ :: _, v => (v, some (.noMember v "setdefault"))

/-- The names of a path, which is written with slashes between them. -/
def pathNames (path : Value) : Except Failure (List String) :=
  match path with
  | .str s =>
    .ok ((Selector.splitOn '/' (Text.stripChars (· == '/') s.toList)).map String.ofList)
  | v => .error (.noMember v "strip")

/-- Applies one operation of a patch to an object. -/
def applyOperation (operation v : Value) : Value × Option Failure :=
  match operation.part "path" >>= pathNames with
  | .error f => (v, some f)
  | .ok names => patchAt (operation.part "value") names v

/-- Applies operations one after the other, up to the first that fails. -/
def applyOperations : List Value → Value → Value × Option Failure
  | [], v => (v, none)
  | operation :: rest, v =>
    match applyOperation operation v with
    | (v, none) => applyOperations rest v
    | (v, some f) => (v, some f)

/-- Patches an object in its place. -/
def patch (s : Store) (kind : Kind) (name operations space : Value) : Reply × Store :=
  match StoreKey.of kind name space with
  | .error f => (.error f, s)
  | .ok key =>
    match s.find? key, operations.items with
    | none, _ => (.error .notFound, s)
    | some _, .error f => (.error f, s)
    | some v, .ok operations =>
      match applyOperations operations v with
      | (v, none) => (.ok v, s.write key v)
      | (v, some f) => (.error f, s.write key v)

/-- The labels of an object. -/
def labels (v : Value) : Except Failure Value := do
  return (← (← v.metadata).member "labels").orElse (.obj [])

/-- The objects of a kind among entries, in a namespace if one is given, whose labels match. -/
def select (kind : Kind) (space selector : Value) :
    List (StoreKey × Value) → Except Failure (List Value)
  | [] => return []
  | (key, v) :: rest => do
    let inSpace := match space with
      | .null => true
      | space => decide (key.space ≈ space)
    if decide (key.kind = kind) && inSpace then
      let accepted ← Selector.accepts selector (← labels v)
      let others ← select kind space selector rest
      return if accepted then v :: others else others
    else select kind space selector rest

/-- Lists the objects of a kind. -/
def list (s : Store) (kind : Kind) (space selector : Value) : Except Failure (List Value) :=
  select kind space selector s.entries

/-- The reply to a request. -/
def reply (s : Store) : Request → Reply × Store
  | .get kind name space => (s.get kind name space, s)
  | .create kind body => s.create kind body
  | .update kind body => s.update kind body
  | .updateStatus kind body => s.updateStatus kind body
  | .patch kind name operations space => s.patch kind name operations space
  | .list kind space selector => ((s.list kind space selector).map Value.arr, s)

end Store

end MonitoringUpkeep
