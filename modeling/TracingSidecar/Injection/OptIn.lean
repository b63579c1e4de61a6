import TracingSidecar.Object.Namespace
import TracingSidecar.Object.Workload
import TracingSidecar.Text.Ascii

/-!
# Opting in

A workload or namespace asks for a sidecar by an annotation or label: `true` for any instance, a
name for that instance, `false` for none.  Annotations come before labels, the current key before
the older one, and an empty value counts as none.  A workload's own value comes before that of its
namespace.
-/

namespace TracingSidecar

/-- The key that asks for a sidecar. -/
def injectKey : String := "sidecar.jaegertracing.io/inject"

/-- The older key, which workloads may still use. -/
def olderInjectKey : String := "inject-jaeger-agent"

/-- The value of the first key that has one other than the empty text. -/
def firstValue? (find : String → Option String) (keys : List String) : Option String :=
  keys.findSome? fun key => (find key).filter (· ≠ "")

/-- What an object asks for under some keys. -/
def optInValue? (keys : List String) (m : ObjectMeta) : Option String :=
  (firstValue? m.annotation? keys).or (firstValue? m.label? keys)

/-- What the workload itself asks for. -/
def Workload.optIn? (w : Workload) : Option String :=
  optInValue? [injectKey, olderInjectKey] w.metadata

/-- What the namespace asks for on behalf of its workloads. -/
def Namespace.optIn? (n : Namespace) : Option String := optInValue? [injectKey] n.metadata

def saysTrue (value : String) : Bool := Text.sameIgnoringCase value "true"

def saysFalse (value : String) : Bool := Text.sameIgnoringCase value "false"

/-- Whether a value names an instance, rather than asking for any or none. -/
def namesInstance (value : String) : Bool := value ≠ "" && !saysTrue value && !saysFalse value

/-- Whether a value asks for a sidecar, of any instance or of a named one. -/
def requestsInjection : Option String → Bool
  | none => false
  | some value => value ≠ "" && !saysFalse value

/-- Whether the workload or, if it says nothing, its namespace asks for a sidecar. -/
def Workload.isOptedIn (w : Workload) (ns : Namespace) : Bool :=
  requestsInjection (w.optIn?.or ns.optIn?)

end TracingSidecar
