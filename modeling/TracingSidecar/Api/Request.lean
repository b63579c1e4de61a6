import TracingSidecar.Api.Collection
import TracingSidecar.Api.Error
import TracingSidecar.Api.Target
import TracingSidecar.Instance
import TracingSidecar.Object.Namespace

/-!
# Requests to the cluster

A request lists objects, reads a namespace or replaces a workload.  It is sent to an address, and
what comes back is one document or a list of documents; `Request.readReply` reads them as what the
request asked for.
-/

namespace TracingSidecar

/-- A request to the cluster.  A list without a namespace goes over all of them. -/
inductive Request where
  | listInstances (namespaceName : Option String)
  | listNamespaces
  | getNamespace (name : String)
  | listWorkloads (kind : WorkloadKind) (namespaceName : Option String)
  | replaceWorkload (namespaceName name : String) (workload : Workload)
  deriving DecidableEq

/-- What the cluster replies with. -/
inductive Reply where
  | document (content : Json)
  | list (contents : List Json)
  deriving DecidableEq

namespace Request

/-- What the answer to a request is. -/
abbrev Answer : Request → Type
  | .listInstances _ => List TracingInstance
  | .listNamespaces => List Namespace
  | .getNamespace _ => Namespace
  | .listWorkloads _ _ => List Workload
  | .replaceWorkload _ _ _ => Workload

def method : Request → String
  | .replaceWorkload _ _ _ => "PUT"
  | _ => "GET"

/-- The name under which the operator writes. -/
def fieldManager : String := "jaeger-injector"

/-- The address that a request is sent to. -/
def address : Request → String
  | .listInstances namespaceName => Collection.instances.path namespaceName ++ "?"
  | .listNamespaces => Collection.namespaces.path none ++ "?"
  | .getNamespace name => Collection.namespaces.path none ++ "/" ++ name
  | .listWorkloads kind namespaceName => (Collection.workloads kind).path namespaceName ++ "?"
  | .replaceWorkload namespaceName name workload =>
      (Collection.workloads workload.kind).objectPath namespaceName name
        ++ "?&fieldManager=" ++ fieldManager

/-- The target that a request is sent to, if its address has one. -/
def target? (request : Request) : Option Target := Target.parse? request.address

/-- The object that a request sends. -/
def body? : Request → Option Workload
  | .replaceWorkload _ _ workload => some workload
  | _ => none

/-- Read a document. -/
def readDocument {α : Type} (read : Json → Option α) : Reply → Except ApiError α
  | .document content =>
      match read content with
      | some value => .ok value
      | none => .error .unreadable
  | .list _ => .error .unreadable

/-- Read every document of a list; one that cannot be read makes the list unreadable. -/
def readList {α : Type} (read : Json → Option α) : Reply → Except ApiError (List α)
  | .document _ => .error .unreadable
  | .list contents =>
      match contents.mapM read with
      | some values => .ok values
      | none => .error .unreadable

/-- The answer in a reply. -/
def readReply : (request : Request) → Reply → Except ApiError request.Answer
  | .listInstances _ => readList TracingInstance.codec.decode
  | .listNamespaces => readList Namespace.codec.decode
  | .getNamespace _ => readDocument Namespace.codec.decode
  | .listWorkloads kind _ => readList (Workload.decode kind)
  | .replaceWorkload _ _ workload => readDocument (Workload.decode workload.kind)

end Request

end TracingSidecar
