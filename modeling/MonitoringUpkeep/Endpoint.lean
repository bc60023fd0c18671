import MonitoringUpkeep.Trace
import MonitoringUpkeep.Value.Access

/-!
# Endpoints of the cluster

Each kind has one endpoint in the cluster's API. Kinds that every cluster has are served by typed
clients, each operation by a method of its own; the others by one client for custom kinds, which is
told the group, the version and the plural name. The same object has the same address whatever is
done to it. The clients come from a library, of which no more is known than what is asked of it.
-/

namespace MonitoringUpkeep

/-- The clients of the API. -/
inductive Client where
  | core
  | apps
  | rbac
  | custom
deriving DecidableEq

namespace Client

def name : Client → String
  | .core => "core"
  | .apps => "apps"
  | .rbac => "rbac"
  | .custom => "custom"

def title : Client → String
  | .core => "CoreV1Api"
  | .apps => "AppsV1Api"
  | .rbac => "RbacAuthorizationV1Api"
  | .custom => "CustomObjectsApi"

end Client

/-- What a client answers: plain data, or an object of the library that the client comes from. An object
    that lists others has them as its items, none if it has no list. -/
inductive ClientAnswer (α : Type) where
  | data (v : Value)
  | listing (self : α) (items : Option (List (ClientAnswer α)))
  | model (self : α)

/-- The library that the clients come from. Its objects are opaque: it alone knows what is in them. -/
structure ClientLibrary (α : Type) where
  /-- whether a client has a method of a name -/
  hasMethod : Client → String → Bool
  /-- the name of the type of an object -/
  typeName : α → String
  /-- an answer turned into plain data -/
  sanitize : ClientAnswer α → Except Failure Value

/-- Where the objects of a kind are served. -/
inductive Endpoint where
  /-- by methods of a typed client, whose names end in `suffix` -/
  | typed (client : Client) (suffix : String) (namespaced : Bool)
  /-- by the client for custom kinds -/
  | custom (group version plural : String) (namespaced : Bool)
deriving DecidableEq

/-- A call of a method of a client. -/
structure ClientCall where
  client : Client
  method : String
  arguments : Fields

def Kind.endpoint : Kind → Endpoint
  | .prometheusRule => .custom "monitoring.coreos.com" "v1" "prometheusrules" true
  | .serviceMonitor => .custom "monitoring.coreos.com" "v1" "servicemonitors" true
  | .role => .typed .rbac "namespaced_role" true
  | .roleBinding => .typed .rbac "namespaced_role_binding" true
  | .service => .typed .core "namespaced_service" true
  | .pod => .typed .core "namespaced_pod" true
  | .node => .typed .core "node" false
  | .deployment => .typed .apps "namespaced_deployment" true
  | .hyperConverged => .custom "hco.kubevirt.io" "v1beta1" "hyperconvergeds" true
  | .tenantQuota => .custom "mtq.kubevirt.io" "v1alpha1" "mtqs" false

namespace Endpoint

def client : Endpoint → Client
  | .typed client .. => client
  | .custom .. => .custom

/-- Whether the objects of an endpoint live in namespaces. -/
def namespaced : Endpoint → Bool
  | .typed _ _ namespaced => namespaced
  | .custom _ _ _ namespaced => namespaced

/-- The method for an operation; `part` is the part of the object that it is about. -/
def method (e : Endpoint) (verb part : String) : String :=
  match e with
  | .typed _ suffix _ => verb ++ "_" ++ suffix ++ part
  | .custom _ _ _ namespaced =>
    verb ++ (if namespaced then "_namespaced" else "_cluster") ++ "_custom_object" ++ part

def address (e : Endpoint) (space : Value) : Fields :=
  (match e with
    | .typed .. => []
    | .custom group version plural _ =>
      [("group", .str group), ("version", .str version), ("plural", .str plural)])
  ++ if e.namespaced then [("namespace", space)] else []

def readVerb : Endpoint → String
  | .typed .. => "read"
  | .custom .. => "get"

/-- The call of a method of an endpoint; a method that its client does not have is a failure. -/
def call {α : Type} (library : ClientLibrary α) (e : Endpoint) (verb part : String) (space : Value)
    (arguments : Fields) : Except Failure ClientCall :=
  let method := e.method verb part
  if library.hasMethod e.client method then .ok ⟨e.client, method, e.address space ++ arguments⟩
  else .error (.misfit (.noMember e.client.title method))

end Endpoint

namespace Request

def identity (body : Value) : Except Failure (Value × Value) := do
  let metadata ← body.metadata
  let name ← metadata.part "name"
  return (name, ← metadata.member "namespace")

def clientCall {α : Type} (library : ClientLibrary α) (request : Request) :
    Except Failure ClientCall := do
  let e := request.kind.endpoint
  match request with
  | .get _ name space => e.call library e.readVerb "" space [("name", name)]
  | .create _ body =>
    let (_, space) ← identity body
    e.call library "create" "" space [("body", body)]
  | .update _ body =>
    let (name, space) ← identity body
    e.call library "replace" "" space [("name", name), ("body", body)]
  | .updateStatus _ body =>
    let (name, space) ← identity body
    e.call library "replace" "_status" space [("name", name), ("body", body)]
  | .patch _ name operations space =>
    e.call library "patch" "" space [("name", name), ("body", operations)]
  | .list _ space selector => e.call library "list" "" space [("label_selector", selector)]

end Request

namespace ClientAnswer

variable {α : Type} (library : ClientLibrary α)

/-- An answer as a plain object: one that is an object already stays as it is. -/
def plain : ClientAnswer α → Except Failure Value
  | .data (.obj fs) => .ok (.obj fs)
  | a => library.sanitize a

def typeName : ClientAnswer α → String
  | .data v => v.typeName
  | .listing self _ | .model self => library.typeName self

/-- The items of the answer to a list of typed objects. -/
def typedItems : ClientAnswer α → Except Failure (List Value)
  | .listing _ items => (items.getD []).mapM (plain library)
  | .data (.obj _) => .error (.misfit (.notIterable "builtin_function_or_method"))
  | a => .error (.misfit (.noMember (a.typeName library) "items"))

/-- The items of the answer to a list of custom objects. -/
def customItems : ClientAnswer α → Except Failure (List Value)
  | .data v => do ((← v.member "items").orElse (.arr [])).items
  | a => .error (.misfit (.noMember (a.typeName library) "get"))

/-- What a request is answered with. The answer of the client for custom kinds is passed on as it is. -/
def reply (request : Request) (a : ClientAnswer α) : Except Failure (ClientAnswer α) :=
  match request, request.kind.endpoint with
  | .list .., .typed .. => (a.typedItems library).map fun items => .data (.arr items)
  | .list .., .custom .. => (a.customItems library).map fun items => .data (.arr items)
  | _, .typed .. => (a.plain library).map .data
  | _, .custom .. => .ok a

end ClientAnswer

namespace Request

/-- The call that a request is made by, if it comes to one, and what the request is answered with. -/
def perform {α : Type} (library : ClientLibrary α) (request : Request)
    (answer : ClientCall → Except Failure (ClientAnswer α)) :
    Option ClientCall × Except Failure (ClientAnswer α) :=
  match request.clientCall library with
  | .error f => (none, .error f)
  | .ok call => (some call, answer call >>= ClientAnswer.reply library request)

end Request

end MonitoringUpkeep
