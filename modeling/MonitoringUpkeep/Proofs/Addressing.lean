import MonitoringUpkeep.Endpoint
import MonitoringUpkeep.Proofs.Fields
import MonitoringUpkeep.Proofs.Reading

/-!
# Addresses of requests

A request to the cluster comes to one call of a method of a client, or to none. What the call addresses can
be read from the call alone: its client, the resource that its method is named for, the coordinates of a
custom kind, the namespace and the name. All requests about one kind address one collection, those about
different kinds different ones, and within a collection an object is addressed by its name and namespace,
wherever the request has them from.
-/

namespace MonitoringUpkeep

/-- The objects that a call can be about: a client, the resource that its method is named for, and the
    coordinates of a custom kind. -/
structure Collection where
  client : Client
  resource : List Char
  group : Option Value
  version : Option Value
  plural : Option Value

namespace ClientCall
open Fields

/-- The resource that a method is named for: its name without the verb at the front and the part of the
    object at the end. -/
def resourceOf (method : String) : List Char :=
  let rest := (method.toList.dropWhile (· ≠ '_')).drop 1
  if "_status".toList <:+ rest then rest.take (rest.length - "_status".toList.length) else rest

def collection (c : ClientCall) : Collection where
  client := c.client
  resource := resourceOf c.method
  group := get? c.arguments "group"
  version := get? c.arguments "version"
  plural := get? c.arguments "plural"

/-- The name of the object that a call is about, if it is about a single one. -/
def name (c : ClientCall) : Option Value := get? c.arguments "name"

def space (c : ClientCall) : Option Value := get? c.arguments "namespace"

/-- What a call sends: an object, or the operations of a patch. -/
def body (c : ClientCall) : Option Value := get? c.arguments "body"

end ClientCall

namespace ClientCall

theorem rest_of_method {verb : List Char} (word : '_' ∉ verb) (rest : List Char) :
    ((verb ++ '_' :: rest).dropWhile (· ≠ '_')).drop 1 = rest := by
  have skipped : ∀ c ∈ verb, decide (c ≠ '_') = true := fun c member =>
    decide_eq_true (fun same => word (same ▸ member))
  rw [List.dropWhile_append_of_pos skipped]
  rfl

/-- The resource that a method is named for stands between the verb and the part of the object. -/
theorem resourceOf_eq {method : String} {verb resource part : List Char} (word : '_' ∉ verb)
    (whole : ¬ "_status".toList <:+ resource) (known : part = [] ∨ part = "_status".toList)
    (named : method.toList = verb ++ '_' :: (resource ++ part)) : resourceOf method = resource := by
  simp only [resourceOf, named, rest_of_method word]
  rcases known with rfl | rfl
  · rw [List.append_nil, if_neg whole]
  · rw [if_pos (List.suffix_append _ _), List.length_append, Nat.add_sub_cancel, List.take_left]

end ClientCall

theorem Endpoint.readVerb_word (e : Endpoint) : '_' ∉ e.readVerb.toList := by
  cases e <;> simp [readVerb]

namespace Kind

/-- Whether the objects of a kind live in no namespace. -/
def isClusterWide : Kind → Bool
  | .node | .tenantQuota => true
  | _ => false

/-- The collection of all objects of a kind. -/
def collection (k : Kind) : Collection :=
  match k.endpoint with
  | .typed client suffix _ => ⟨client, suffix.toList, none, none, none⟩
  | .custom group version plural namespaced =>
    ⟨.custom, (if namespaced then "namespaced_custom_object" else "cluster_custom_object").toList,
      some (.str group), some (.str version), some (.str plural)⟩

theorem method_toList (k : Kind) (verb part : String) : (k.endpoint.method verb part).toList =
    verb.toList ++ '_' :: (k.collection.resource ++ part.toList) := by
  cases k <;> simp [endpoint, Endpoint.method, collection]

theorem resource_whole (k : Kind) : ¬ "_status".toList <:+ k.collection.resource := by
  cases k <;> decide

theorem client_eq (k : Kind) : k.endpoint.client = k.collection.client := by
  cases k <;> rfl

theorem address_coordinates (k : Kind) (space : Value) :
    Fields.get? (k.endpoint.address space) "group" = k.collection.group ∧
      Fields.get? (k.endpoint.address space) "version" = k.collection.version ∧
      Fields.get? (k.endpoint.address space) "plural" = k.collection.plural := by
  cases k <;> exact ⟨rfl, rfl, rfl⟩

theorem address_space (k : Kind) (space : Value) :
    Fields.get? (k.endpoint.address space) "namespace" =
      if k.isClusterWide then none else some space := by
  cases k <;> rfl

theorem address_beside (k : Kind) (space : Value) :
    Fields.get? (k.endpoint.address space) "name" = none ∧
      Fields.get? (k.endpoint.address space) "body" = none := by
  cases k <;> exact ⟨rfl, rfl⟩

/-- Different kinds have different collections. -/
theorem collection_injective : Function.Injective collection := by
  intro k k' same
  cases k <;> cases k' <;> first | rfl | simp [collection, endpoint] at same

end Kind

namespace Request
open Fields Value

/-- The name of the object that a request is about, none for a whole collection, and its namespace. An
    object that is written names itself. -/
def target : Request → Except Failure (Option Value × Value)
  | .get _ name space | .patch _ name _ space => .ok (some name, space)
  | .create _ body => return (none, (← identity body).2)
  | .update _ body | .updateStatus _ body => do
    let (name, space) ← identity body
    return (some name, space)
  | .list _ space _ => .ok (none, space)

/-- The method that performs a request. -/
def method (r : Request) : String :=
  let e := r.kind.endpoint
  match r with
  | .get .. => e.method e.readVerb ""
  | .create .. => e.method "create" ""
  | .update .. => e.method "replace" ""
  | .updateStatus .. => e.method "replace" "_status"
  | .patch .. => e.method "patch" ""
  | .list .. => e.method "list" ""

/-- What a request sends: an object, or the operations of a patch. -/
def payload : Request → Option Value
  | .create _ body | .update _ body | .updateStatus _ body => some body
  | .patch _ _ operations _ => some operations
  | .get .. | .list .. => none

/-- The arguments of a call beside the collection and the namespace. -/
def arguments (r : Request) (name : Option Value) : Fields :=
  name.toList.map ("name", ·) ++ r.payload.toList.map ("body", ·) ++
    match r with
    | .list _ _ selector => [("label_selector", selector)]
    | _ => []

/-- The call that performs a request about a target. -/
def callAt (r : Request) (target : Option Value × Value) : ClientCall :=
  ⟨r.kind.endpoint.client, r.method, r.kind.endpoint.address target.2 ++ r.arguments target.1⟩

variable {α : Type} {library : ClientLibrary α}

/-- The client of the kind of a request has the method that performs it. -/
def Offered (library : ClientLibrary α) (r : Request) : Prop :=
  library.hasMethod r.kind.endpoint.client r.method = true

/-- A request comes to a call when its target can be read and the client has the method. -/
theorem clientCall_eq (r : Request) : r.clientCall library = r.target >>= fun target =>
    if library.hasMethod r.kind.endpoint.client r.method then .ok (r.callAt target)
    else .error (.misfit (.noMember r.kind.endpoint.client.title r.method)) := by
  cases r with
  | get | patch | list => rfl
  | create kind body | update kind body | updateStatus kind body =>
    cases read : identity body <;> simp only [clientCall, target, read] <;> rfl

theorem method_resource (r : Request) :
    ClientCall.resourceOf r.method = r.kind.collection.resource := by
  have named {verb part : String} (word : '_' ∉ verb.toList)
      (known : part.toList = [] ∨ part.toList = "_status".toList) :
      ClientCall.resourceOf (r.kind.endpoint.method verb part) = r.kind.collection.resource :=
    ClientCall.resourceOf_eq word r.kind.resource_whole known (r.kind.method_toList verb part)
  cases r with
  | get kind => exact named kind.endpoint.readVerb_word (.inl rfl)
  | updateStatus => exact named (by decide) (.inr rfl)
  | _ => exact named (by decide) (.inl rfl)

theorem get?_arguments {key : String} (r : Request) (name : Option Value)
    (elsewhere : key ∈ ["group", "version", "plural", "namespace"]) :
    get? (r.arguments name) key = none := by
  have ⟨notName, notBody, notSelector⟩ : key ≠ "name" ∧ key ≠ "body" ∧ key ≠ "label_selector" := by
    refine ⟨?_, ?_, ?_⟩ <;> rintro rfl <;> simp at elsewhere
  cases r <;> cases name <;>
    simp [arguments, payload, get?, notName.symm, notBody.symm, notSelector.symm]

theorem arguments_name (r : Request) (name : Option Value) : get? (r.arguments name) "name" = name := by
  cases r <;> cases name <;> simp [arguments, payload, get?]

theorem arguments_body (r : Request) (name : Option Value) :
    get? (r.arguments name) "body" = r.payload := by
  cases r <;> cases name <;> simp [arguments, payload, get?]

/-- The call that performs a request is about the collection of its kind. -/
theorem callAt_collection (r : Request) (target : Option Value × Value) :
    (r.callAt target).collection = r.kind.collection := by
  obtain ⟨group, version, plural⟩ := r.kind.address_coordinates target.2
  simp only [ClientCall.collection, callAt, get?_append, group, version, plural, method_resource,
    Kind.client_eq]
  simp [get?_arguments]

theorem callAt_space (r : Request) (target : Option Value × Value) :
    (r.callAt target).space = if r.kind.isClusterWide then none else some target.2 := by
  simp [ClientCall.space, callAt, get?_append, get?_arguments, Kind.address_space]

theorem callAt_name (r : Request) (target : Option Value × Value) :
    (r.callAt target).name = target.1 := by
  simp [ClientCall.name, callAt, get?_append, r.kind.address_beside target.2, arguments_name]

theorem callAt_body (r : Request) (target : Option Value × Value) :
    (r.callAt target).body = r.payload := by
  simp [ClientCall.body, callAt, get?_append, r.kind.address_beside target.2, arguments_body]

/-- An object must name itself and does not: its metadata, if they count as given, are an object without
    a name. -/
def Nameless (r : Request) : Prop :=
  ∃ body metadata, r.body? = some body ∧ body.metadata = .ok (.obj metadata) ∧
    get? metadata "name" = none

theorem Nameless.target {r : Request} (nameless : r.Nameless) :
    r.target = .error (.missingKey "name") := by
  obtain ⟨body, metadata, written, read, none⟩ := nameless
  have refused : identity body = .error (.missingKey "name") := by
    simp only [identity, read, part, none, bind, Except.bind]
  cases r with
  | create _ object | update _ object | updateStatus _ object =>
    cases written
    simp only [Request.target, refused, bind, Except.bind]
  | _ => cases written

/-- An object whose identity can be read has it in its metadata. -/
theorem identity_ok {body name space : Value} (read : identity body = .ok (name, space)) :
    name = body.lookup ["metadata", "name"] ∧ space = body.lookup ["metadata", "namespace"] := by
  obtain ⟨metadata, held, rest⟩ := bind_ok_iff.mp read
  obtain ⟨_, named, rest⟩ := bind_ok_iff.mp rest
  obtain ⟨_, placed, same⟩ := bind_ok_iff.mp rest
  cases same
  obtain ⟨ms, rfl, rfl⟩ := member_ok_iff.mp placed
  obtain ⟨given, found, whole⟩ := bind_ok_iff.mp held
  obtain ⟨fs, rfl, rfl⟩ := member_ok_iff.mp found
  rw [pure_ok_iff] at whole
  rcases orElse_cases (getD fs "metadata") (.obj []) with itself | ⟨-, instead⟩
  · have place : getD fs "metadata" = .obj ms := itself.symm.trans whole
    have present : getD ms "name" = name := by
      cases there : get? ms "name" with
      | none => simp [part, there] at named
      | some m =>
        simp only [part, there, Except.ok.injEq] at named
        simp [getD, there, named]
    simp only [lookup, place, present, and_self]
  · rw [instead] at whole
    cases whole
    cases named

/-- A request about an object that is written has its target from the metadata of the object. -/
theorem target_written {r : Request} {body space : Value} {name : Option Value}
    (written : r.body? = some body) (read : r.target = .ok (name, space)) :
    space = body.lookup ["metadata", "namespace"] ∧
      ∀ given ∈ name, given = body.lookup ["metadata", "name"] := by
  cases r with
  | create _ object =>
    cases written
    obtain ⟨_, known, same⟩ := bind_ok_iff.mp read
    cases same
    exact ⟨(identity_ok known).2, nofun⟩
  | update _ object | updateStatus _ object =>
    cases written
    obtain ⟨_, known, same⟩ := bind_ok_iff.mp read
    cases same
    refine ⟨(identity_ok known).2, fun given named => ?_⟩
    cases named
    exact (identity_ok known).1
  | _ => cases written

variable {r : Request} {answer : ClientCall → Except Failure (ClientAnswer α)}

/-- A request about a target comes to the call of the method, if the client has it. -/
theorem perform_eq {target : Option Value × Value} (read : r.target = .ok target)
    (offered : r.Offered library) : r.perform library answer =
      (some (r.callAt target), answer (r.callAt target) >>= ClientAnswer.reply library r) := by
  have called : r.clientCall library = .ok (r.callAt target) := by
    rw [clientCall_eq, read]
    exact if_pos offered
  simp only [perform, called]

theorem perform_lacking {target : Option Value × Value} (read : r.target = .ok target)
    (lacks : ¬ r.Offered library) : r.perform library answer =
      (none, .error (.misfit (.noMember r.kind.endpoint.client.title r.method))) := by
  have refused : r.clientCall library =
      .error (.misfit (.noMember r.kind.endpoint.client.title r.method)) := by
    rw [clientCall_eq, read]
    exact if_neg lacks
  simp only [perform, refused]

theorem perform_unread {f : Failure} (unread : r.target = .error f) :
    r.perform library answer = (none, .error f) := by
  have refused : r.clientCall library = .error f := by
    rw [clientCall_eq, unread]
    rfl
  simp only [perform, refused]

/-- Only a request about a target comes to a call, which then is the same whatever the answers. -/
theorem exists_target {call : ClientCall} (called : (r.perform library answer).1 = some call) :
    ∃ target, r.target = .ok target ∧ call = r.callAt target ∧ ∀ answer',
      r.perform library answer' = (some call, answer' call >>= ClientAnswer.reply library r) := by
  cases read : r.target with
  | error f => simp [perform_unread read] at called
  | ok target =>
    by_cases offered : r.Offered library
    · rw [perform_eq read offered] at called
      cases called
      exact ⟨target, rfl, rfl, fun answer' => perform_eq read offered⟩
    · simp [perform_lacking read offered] at called

end Request

/-- Objects of the library are turned into plain objects. -/
structure ClientLibrary.Converts {α : Type} (library : ClientLibrary α) : Prop where
  model : ∀ self, ∃ fs, library.sanitize (.model self) = .ok (.obj fs)

section Lists

variable {α : Type} {library : ClientLibrary α}

/-- An answer that is an object, plain or of the library. -/
inductive ClientAnswer.IsObject : ClientAnswer α → Prop
  | data (fs : Fields) : IsObject (.data (.obj fs))
  | model (self : α) : IsObject (.model self)

/-- A well-formed answer to a list of the objects of an endpoint. -/
inductive Endpoint.WellListed : Endpoint → ClientAnswer α → Prop
  | typed {client suffix namespaced self answers} :
    (∀ a ∈ answers, ClientAnswer.IsObject a) →
      WellListed (.typed client suffix namespaced) (.listing self (some answers))
  | typedNull {client suffix namespaced self} :
    WellListed (.typed client suffix namespaced) (.listing self none)
  | custom {group version plural namespaced fs items} :
    Fields.getD fs "items" = .arr items →
      WellListed (.custom group version plural namespaced) (.data (.obj fs))
  | customNull {group version plural namespaced fs} :
    Fields.getD fs "items" = .null →
      WellListed (.custom group version plural namespaced) (.data (.obj fs))

/-- An item of an answer and what stands for it in a list: a plain object stands for itself, and an
    object of the library is turned into one. -/
inductive ClientLibrary.Turns (library : ClientLibrary α) : ClientAnswer α → Value → Prop
  | kept (fs : Fields) : Turns library (.data (.obj fs)) (.obj fs)
  | converted {self : α} {fs : Fields} :
    library.sanitize (.model self) = .ok (.obj fs) → Turns library (.model self) (.obj fs)

/-- The items of a well-formed answer, each in its place. -/
inductive Endpoint.Lists (library : ClientLibrary α) :
    Endpoint → ClientAnswer α → List Value → Prop
  | typed {client suffix namespaced self answers items} :
    List.Forall₂ library.Turns answers items →
      Lists library (.typed client suffix namespaced) (.listing self (some answers)) items
  | typedNull {client suffix namespaced self} :
    Lists library (.typed client suffix namespaced) (.listing self none) []
  | custom {group version plural namespaced fs items} :
    Fields.getD fs "items" = .arr items →
      Lists library (.custom group version plural namespaced) (.data (.obj fs)) items
  | customNull {group version plural namespaced fs} :
    Fields.getD fs "items" = .null →
      Lists library (.custom group version plural namespaced) (.data (.obj fs)) []

theorem ClientLibrary.Turns.plain {a : ClientAnswer α} {item : Value} (turns : library.Turns a item) :
    a.plain library = .ok item := by
  cases turns with
  | kept fs => rfl
  | converted sanitized => exact sanitized

/-- A library that turns its objects into plain ones does so with all items of a list. -/
theorem ClientLibrary.Converts.turns (converts : library.Converts) {answers : List (ClientAnswer α)}
    (objects : ∀ a ∈ answers, a.IsObject) : ∃ items, List.Forall₂ library.Turns answers items := by
  induction answers with
  | nil => exact ⟨[], .nil⟩
  | cons a rest ih =>
    obtain ⟨first, others⟩ := List.forall_mem_cons.mp objects
    obtain ⟨items, turned⟩ := ih others
    cases first with
    | data fs => exact ⟨.obj fs :: items, .cons (.kept fs) turned⟩
    | model self =>
      obtain ⟨fs, sanitized⟩ := converts.model self
      exact ⟨.obj fs :: items, .cons (.converted sanitized) turned⟩

theorem ClientLibrary.Converts.lists (converts : library.Converts) {e : Endpoint} {a : ClientAnswer α}
    (well : e.WellListed a) : ∃ items, e.Lists library a items := by
  cases well with
  | typed objects =>
    obtain ⟨items, turned⟩ := converts.turns objects
    exact ⟨items, .typed turned⟩
  | typedNull => exact ⟨[], .typedNull⟩
  | @custom _ _ _ _ _ items held => exact ⟨items, .custom held⟩
  | customNull absent => exact ⟨[], .customNull absent⟩

end Lists

namespace Request
open Fields Value

variable {α : Type} {library : ClientLibrary α}

/-- A well-formed answer to a list is answered with its items. -/
theorem reply_lists {kind : Kind} {space selector : Value} {a : ClientAnswer α} {items : List Value}
    (lists : kind.endpoint.Lists library a items) :
    ClientAnswer.reply library (.list kind space selector) a = .ok (.data (.arr items)) := by
  simp only [ClientAnswer.reply, Request.kind]
  cases endpoint : kind.endpoint with
  | typed client suffix namespaced =>
    rw [endpoint] at lists
    cases lists with
    | typed turned =>
      have turned := mapM_ok_iff.mpr (turned.imp fun _ _ turns => turns.plain)
      simp [ClientAnswer.typedItems, turned, Except.map]
    | typedNull => rfl
  | custom group version plural namespaced =>
    rw [endpoint] at lists
    cases lists with
    | custom held =>
      have read : (Value.arr items).orElse (.arr []) = .arr items := by cases items <;> rfl
      simp [ClientAnswer.customItems, member, held, read, Value.items, Except.map, bind, Except.bind]
    | customNull absent =>
      simp [ClientAnswer.customItems, member, absent, orElse, isBlank, Value.items, Except.map, bind,
        Except.bind]

/-- What a request comes to, as calls to the cluster. -/
structure Addresses (library : ClientLibrary α) (r : Request)
    (answer : ClientCall → Except Failure (ClientAnswer α)) : Prop where
  /-- without a target there is no call -/
  unread : ∀ f, r.target = .error f → r.perform library answer = (none, .error f)
  nameless : r.Nameless → r.perform library answer = (none, .error (.missingKey "name"))
  /-- nor is there one without a method for it -/
  lacking : ∀ target, r.target = .ok target → ¬ r.Offered library → r.perform library answer =
    (none, .error (.misfit (.noMember r.kind.endpoint.client.title r.method)))
  /-- otherwise there is a call, about the target and with what the request sends -/
  called : ∀ name space, r.target = .ok (name, space) → r.Offered library → ∃ call,
    (r.perform library answer).1 = some call ∧ call.name = name ∧
      call.space = (if r.kind.isClusterWide then none else some space) ∧ call.body = r.payload
  /-- an object that is written is addressed by its own metadata -/
  written : ∀ body name space, r.body? = some body → r.target = .ok (name, space) →
    space = body.lookup ["metadata", "namespace"] ∧
      ∀ given ∈ name, given = body.lookup ["metadata", "name"]
  /-- nothing but the answer to the call counts, and its failure is that of the request -/
  relayed : ∀ call, (r.perform library answer).1 = some call →
    (∀ f, answer call = .error f → (r.perform library answer).2 = .error f) ∧
      ∀ answer', answer' call = answer call → r.perform library answer' = r.perform library answer
  /-- the calls of two requests are about one collection exactly if the requests are about one kind -/
  collection : ∀ other answer' call call', (r.perform library answer).1 = some call →
    (perform library other answer').1 = some call' →
    (call'.collection = call.collection ↔ other.kind = r.kind)
  /-- requests about one kind and one target have one address -/
  address : ∀ other answer' call call', (r.perform library answer).1 = some call →
    (perform library other answer').1 = some call' → other.kind = r.kind → other.target = r.target →
    call'.collection = call.collection ∧ call'.name = call.name ∧ call'.space = call.space
  /-- a list has the items of a well-formed answer, each in its place -/
  listed : ∀ kind space selector call a, r = .list kind space selector →
    (r.perform library answer).1 = some call → answer call = .ok a → kind.endpoint.WellListed a →
    ∃ items, kind.endpoint.Lists library a items ∧
      (r.perform library answer).2 = .ok (.data (.arr items))

/-- Every request comes to at most one call, whose address is that of what the request is about. -/
theorem perform_addresses (converts : library.Converts) (r : Request)
    (answer : ClientCall → Except Failure (ClientAnswer α)) : Addresses library r answer where
  unread _ read := perform_unread read
  nameless missing := perform_unread missing.target
  lacking _ read lacks := perform_lacking read lacks
  called name space read offered := by
    rw [perform_eq read offered]
    exact ⟨_, rfl, callAt_name r _, callAt_space r _, callAt_body r _⟩
  written _ _ _ := target_written
  relayed call called := by
    obtain ⟨target, -, -, made⟩ := exists_target called
    refine ⟨fun f failed => ?_, fun answer' same => ?_⟩
    · rw [made, failed]
      rfl
    · rw [made, made, same]
  collection other answer' call call' called called' := by
    obtain ⟨target, -, rfl, -⟩ := exists_target called
    obtain ⟨target', -, rfl, -⟩ := exists_target called'
    rw [callAt_collection, callAt_collection, Kind.collection_injective.eq_iff]
  address other answer' call call' called called' kinds targets := by
    obtain ⟨target, read, rfl, -⟩ := exists_target called
    obtain ⟨target', read', rfl, -⟩ := exists_target called'
    rw [targets, read] at read'
    cases read'
    simp only [callAt_collection, callAt_name, callAt_space, kinds, and_self]
  listed kind space selector call a is called answered well := by
    obtain ⟨items, lists⟩ := converts.lists well
    obtain ⟨target, -, -, made⟩ := exists_target called
    rw [made, answered, is]
    exact ⟨items, lists, reply_lists lists⟩

/-- A library whose objects are the attributes that they can have, null where they have none, and whose
    clients have no methods for the status of roles and of their bindings. -/
def attributeLibrary : ClientLibrary Fields where
  hasMethod _ method :=
    ["replace_namespaced_role_status", "replace_namespaced_role_binding_status"].all (· != method)
  typeName _ := "V1Service"
  sanitize
    | .data v => .ok v
    | .listing attributes _ | .model attributes =>
      .ok (.obj (attributes.filter fun f => match f.2 with
        | .null => false
        | _ => true))

/-- Services are listed of which one is an object of the library; the status of a role is not written. -/
theorem perform_addresses_services :
    let service : Fields := [("kind", "Service"), ("metadata", .obj [("name", "metrics")])]
    let answer : ClientCall → Except Failure (ClientAnswer Fields) := fun _ =>
      .ok (.listing [] (some [.model (service ++ [("spec", .null)]), .data (.obj [])]))
    let list : Request := .list .service "kubevirt" ""
    let status : Request := .updateStatus .role (.obj service)
    attributeLibrary.Converts ∧ Addresses attributeLibrary list answer ∧
      Addresses attributeLibrary status answer ∧
      (∃ call, (list.perform attributeLibrary answer).1 = some call ∧
        call.collection = Kind.service.collection ∧ call.space = some "kubevirt") ∧
      (list.perform attributeLibrary answer).2 = .ok (.data (.arr [.obj service, .obj []])) ∧
      status.perform attributeLibrary answer = (none, .error (.misfit
        (.noMember "RbacAuthorizationV1Api" "replace_namespaced_role_status"))) := by
  intro service answer list status
  have converts : attributeLibrary.Converts := ⟨fun attributes => ⟨_, rfl⟩⟩
  have offered : list.Offered attributeLibrary := by
    change attributeLibrary.hasMethod .core "list_namespaced_service" = true
    decide
  have lacks : ¬ status.Offered attributeLibrary := by
    change ¬ attributeLibrary.hasMethod .rbac "replace_namespaced_role_status" = true
    decide
  have listing := perform_addresses converts list answer
  let call := list.callAt (none, "kubevirt")
  have made : list.perform attributeLibrary answer =
      (some call, answer call >>= ClientAnswer.reply attributeLibrary list) := perform_eq rfl offered
  refine ⟨converts, listing, perform_addresses converts status answer, ⟨call, ?_,
    callAt_collection list _, callAt_space list _⟩, ?_, perform_lacking rfl lacks⟩
  · rw [made]
  · rw [made]
    rfl

end Request

end MonitoringUpkeep
