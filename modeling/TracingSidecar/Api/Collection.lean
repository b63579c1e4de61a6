import TracingSidecar.Object.Workload

/-!
# Collections

The objects of one sort form a collection, which is served by one group of the interface under its
plural name.  A collection is reached as a whole or within one namespace.
-/

namespace TracingSidecar

/-- A group of the interface. -/
inductive ApiGroup where
  | core | apps | tracing
  deriving DecidableEq, Repr

namespace ApiGroup

def all : List ApiGroup := [.core, .apps, .tracing]

/-- The path under which a group is served. -/
def path : ApiGroup → String
  | .core => "/api/v1"
  | .apps => "/apis/apps/v1"
  | .tracing => "/apis/jaegertracing.io/v1"

end ApiGroup

/-- The objects of one sort. -/
inductive Collection where
  | instances
  | namespaces
  | workloads (kind : WorkloadKind)
  deriving DecidableEq, Repr

namespace Collection

def plural : Collection → String
  | .instances => "jaegers"
  | .namespaces => "namespaces"
  | .workloads .pod => "pods"
  | .workloads .deployment => "deployments"
  | .workloads .statefulSet => "statefulsets"
  | .workloads .daemonSet => "daemonsets"

def group : Collection → ApiGroup
  | .instances => .tracing
  | .namespaces => .core
  | .workloads .pod => .core
  | .workloads _ => .apps

/-- The collections that a cluster keeps. -/
def kept : List Collection :=
  [.instances, .namespaces, .workloads .deployment, .workloads .statefulSet, .workloads .daemonSet]

/-- The collection that is kept under a plural name. -/
def ofPlural? (plural : String) : Option Collection := kept.find? (·.plural = plural)

/-- The path of a collection, in one namespace or in all. -/
def path (collection : Collection) : Option String → String
  | none => collection.group.path ++ "/" ++ collection.plural
  | some namespaceName =>
      collection.group.path ++ "/namespaces/" ++ namespaceName ++ "/" ++ collection.plural

/-- The path of an object in a namespace. -/
def objectPath (collection : Collection) (namespaceName name : String) : String :=
  collection.path (some namespaceName) ++ "/" ++ name

end Collection

end TracingSidecar
