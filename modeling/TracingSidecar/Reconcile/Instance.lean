import TracingSidecar.Reconcile.Namespace

/-!
# A pass for an instance

A changed instance affects the namespaces with a workload that is bound to it or asks for a sidecar
itself, and the namespaces that ask for sidecars as a whole.  Each of them gets one pass, in
ascending order of the names; a namespace that cannot be read or whose pass fails does not keep the
others from theirs.
-/

namespace TracingSidecar

/-- Whether a change of the instance with a marker may concern a workload. -/
def Workload.isAffectedBy (marker : String) (w : Workload) : Bool :=
  w.boundTo? = some marker || requestsInjection w.optIn?

/-- The names of the namespaces that a change of an instance may concern, in ascending order. -/
def affectedNamespaces (instanceName : String) (workloads : List Workload)
    (namespaces : List Namespace) : List String :=
  let concerned := workloads.filter (·.isAffectedBy (Naming.labelValue instanceName))
  let asking := namespaces.filter fun n => requestsInjection n.optIn?
  let names := concerned.filterMap (·.metadata.namespaceName) ++ asking.map (·.anyName)
  (SortedMap.ofList (names.map fun name => (name, ()))).keys

/-- All workloads of several kinds, one kind after the other. -/
def allWorkloads : List WorkloadKind → Client (Except ApiError (List Workload))
  | [] => pure (.ok [])
  | kind :: rest => do
      match ← Client.send (.listWorkloads kind none) with
      | .error error => pure (.error error)
      | .ok found =>
          match ← allWorkloads rest with
          | .error error => pure (.error error)
          | .ok more => pure (.ok (found ++ more))

/-- The names of the namespaces that a change of an instance may concern, as the cluster has
them. -/
def findAffected (instanceName : String) : Client (Except ApiError (List String)) := do
  match ← allWorkloads passKinds with
  | .error error => pure (.error error)
  | .ok workloads =>
      match ← Client.send .listNamespaces with
      | .error error => pure (.error error)
      | .ok namespaces => pure (.ok (affectedNamespaces instanceName workloads namespaces))

/-- Read a namespace and pass over it; the answer is whether both succeeded. -/
def visit (context : PassContext) (name : String) : Client Bool := do
  match ← Client.sendNamed name (.getNamespace name) with
  | .error _ => pure false
  | .ok ns =>
      let result ← reconcileNamespace context ns
      pure result.isOk

/-- Visit namespaces one after the other, and count the failures. -/
def visitAll (context : PassContext) : List String → Client Nat
  | [] => pure 0
  | name :: rest => do
      let succeeded ← visit context name
      let failed ← visitAll context rest
      pure ((if succeeded then 0 else 1) + failed)

/-- One pass for an instance; the answer is the number of visited namespaces. -/
def reconcileInstance (context : PassContext) (i : TracingInstance) :
    Client (Except OperatorError Nat) := do
  match ← findAffected i.anyName with
  | .error error => pure (.error (.api error))
  | .ok names => do
      let failed ← visitAll context names
      if 0 < failed then pure (.error (.namespaces i.anyName failed))
      else pure (.ok names.length)

/-- What happens to an instance that was created or changed. -/
def onInstance (context : PassContext) (i : TracingInstance) :
    Client (Except OperatorError Unit) := do
  let result ← reconcileInstance context i
  pure (result.map fun _ => ())

end TracingSidecar
