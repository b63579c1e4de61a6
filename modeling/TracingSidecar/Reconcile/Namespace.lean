import TracingSidecar.Injection.Evaluation
import TracingSidecar.Reconcile.Instances

/-!
# A pass over a namespace

A pass evaluates every deployment, stateful set and daemon set of a namespace and stores those that
changed.  A failed list or write does not stop the pass; failures are counted, and the pass as a
whole fails if there were any.
-/

namespace TracingSidecar

/-- What every pass is given. -/
structure PassContext where
  config : InjectorConfig := {}
  watched : List String := []
  deriving DecidableEq

/-- What a pass did. -/
structure PassReport where
  evaluated : Nat := 0
  persisted : Nat := 0
  failed : Nat := 0
  deriving DecidableEq, Repr

namespace PassReport

/-- What several parts of a pass did together. -/
def add (a b : PassReport) : PassReport :=
  ⟨a.evaluated + b.evaluated, a.persisted + b.persisted, a.failed + b.failed⟩

instance : Add PassReport := ⟨add⟩

end PassReport

/-- The kinds of workloads that a pass goes over, in its order. -/
def passKinds : List WorkloadKind := [.deployment, .statefulSet, .daemonSet]

/-- Store an evaluated workload under its name in a namespace. -/
def persist (namespaceName : String) (w : Workload) : Client (Except ApiError Unit) := do
  let answer ← Client.sendNamed w.anyName (.replaceWorkload namespaceName w.anyName w)
  pure (answer.map fun _ => ())

/-- Evaluate one workload, and store it if it changed. -/
def passWorkload (config : InjectorConfig) (ns : Namespace) (instances : List TracingInstance)
    (w : Workload) : Client PassReport :=
  let (evaluation, evaluated) := evaluate config ns instances w
  if evaluation.changed then do
    match ← persist ns.anyName evaluated with
    | .ok _ => pure { evaluated := 1, persisted := 1 }
    | .error _ => pure { evaluated := 1, failed := 1 }
  else pure { evaluated := 1 }

/-- Evaluate workloads one after the other. -/
def passWorkloads (config : InjectorConfig) (ns : Namespace) (instances : List TracingInstance) :
    List Workload → Client PassReport
  | [] => pure {}
  | w :: rest => do
      let first ← passWorkload config ns instances w
      let others ← passWorkloads config ns instances rest
      pure (first + others)

/-- Evaluate all workloads of one kind. -/
def passKind (config : InjectorConfig) (ns : Namespace) (instances : List TracingInstance)
    (kind : WorkloadKind) : Client PassReport := do
  match ← Client.send (.listWorkloads kind (some ns.anyName)) with
  | .error _ => pure { failed := 1 }
  | .ok workloads => passWorkloads config ns instances workloads

/-- Evaluate all workloads of several kinds, one kind after the other. -/
def passOver (config : InjectorConfig) (ns : Namespace) (instances : List TracingInstance) :
    List WorkloadKind → Client PassReport
  | [] => pure {}
  | kind :: rest => do
      let first ← passKind config ns instances kind
      let others ← passOver config ns instances rest
      pure (first + others)

/-- One pass over a namespace. -/
def reconcileNamespace (context : PassContext) (ns : Namespace) :
    Client (Except OperatorError PassReport) := do
  match ← listInstances context.watched with
  | .error error => pure (.error (.api error))
  | .ok instances => do
      let report ← passOver context.config ns instances passKinds
      if 0 < report.failed then pure (.error (.workloads ns.anyName report.failed))
      else pure (.ok report)

/-- What happens to a namespace that was created or changed: one on its way out is left alone. -/
def onNamespace (context : PassContext) (ns : Namespace) : Client (Except OperatorError Unit) :=
  if ns.metadata.isTerminating then pure (.ok ())
  else do
    let result ← reconcileNamespace context ns
    pure (result.map fun _ => ())

end TracingSidecar
