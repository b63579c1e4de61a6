import TracingSidecar.Api.Client

/-!
# Listing instances

The instances that workloads may be bound to: those of the watched namespaces, or of all when none
is named, without the ones that are on their way out.  One failed list fails the whole.
-/

namespace TracingSidecar

/-- The instances of some namespaces, one namespace after the other. -/
def instancesOf : List String → Client (Except ApiError (List TracingInstance))
  | [] => pure (.ok [])
  | name :: rest => do
      match ← Client.send (.listInstances (some name)) with
      | .error error => pure (.error error)
      | .ok found =>
          match ← instancesOf rest with
          | .error error => pure (.error error)
          | .ok more => pure (.ok (found ++ more))

/-- The instances that workloads may be bound to. -/
def listInstances (watched : List String) : Client (Except ApiError (List TracingInstance)) := do
  let found ←
    if watched.isEmpty then Client.send (.listInstances none) else instancesOf watched
  pure (found.map fun (instances : List TracingInstance) =>
    instances.filter fun i => !i.metadata.isTerminating)

end TracingSidecar
