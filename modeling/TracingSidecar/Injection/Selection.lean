import TracingSidecar.Injection.OptIn
import TracingSidecar.Instance

/-!
# Choosing an instance

A workload is bound to the instance that it names, or that its namespace names; a name that no
candidate has selects nothing.  Where `true` stands instead of a name, the only candidate is chosen,
or else the only one in the workload's namespace.  Where several would do, none is chosen.
-/

namespace TracingSidecar

/-- The namespace in which a candidate is looked for: the workload's, or the namespace's name. -/
def targetNamespace (w : Workload) (ns : Namespace) : String :=
  (w.metadata.namespaceName.or ns.metadata.name).getD ""

/-- The only candidate in a namespace. -/
def onlyIn? (target : String) (candidates : List TracingInstance) : Option TracingInstance :=
  match candidates.filter fun i => i.namespace? = some target with
  | [only] => some only
  | _ => none

/-- The only candidate, or else the only one in a namespace. -/
def unambiguous? (target : String) (candidates : List TracingInstance) : Option TracingInstance :=
  match candidates with
  | [only] => some only
  | _ => onlyIn? target candidates

/-- The instance that a workload is to be bound to. -/
def select? (w : Workload) (ns : Namespace) (candidates : List TracingInstance) :
    Option TracingInstance :=
  let own := w.optIn?.getD ""
  let inherited := ns.optIn?.getD ""
  if saysFalse own then none
  else if namesInstance own then candidates.find? fun i => i.anyName = own
  else if namesInstance inherited then candidates.find? fun i => i.anyName = inherited
  else if saysTrue own || saysTrue inherited then
    unambiguous? (targetNamespace w ns) candidates
  else none

end TracingSidecar
