import TracingSidecar.Proofs.Reconcile.Writes

/-!
# Namespaces on their way out

What happens to a namespace leaves it alone when it is on its way out; what happens to an instance
does not ask.  A pass for an instance visits every affected namespace, and writes to one that is on
its way out whatever its workloads call for (`terminating_spared_iff`).
-/

namespace TracingSidecar

/-- The namespace that a request writes to. -/
def Request.writtenTo? : Request → Option String
  | .replaceWorkload name _ _ => some name
  | _ => none

theorem Request.method_of_writtenTo? {request : Request} {name : String}
    (writes : request.writtenTo? = some name) : request.method = "PUT" := by
  cases request with
  | listInstances | listNamespaces | getNamespace | listWorkloads => cases writes
  | replaceWorkload => rfl

namespace Store

variable (store : Store)

/-- Whether a namespace is on its way out. -/
def isTerminating (name : String) : Bool :=
  (store.namespace? name).any (·.metadata.isTerminating)

/-- Nothing was written to a namespace on its way out. -/
def Spares (seen : List Exchange) : Prop :=
  ∀ e ∈ seen, ∀ name, e.request.writtenTo? = some name → store.isTerminating name = false

/-! ### What is called for -/

/-- The writes of a pass are to the namespace that it goes over. -/
theorem writtenTo?_of_mem_passWrites (context : PassContext) (ns : Namespace) (request : Request)
    (called_for : request ∈ store.passWrites context ns) :
    request.writtenTo? = some ns.anyName := by
  obtain ⟨kind, -, of_kind⟩ := List.mem_flatMap.1 called_for
  obtain ⟨w, -, calls_for⟩ := List.mem_filterMap.1 of_kind
  unfold write? at calls_for
  dsimp only at calls_for
  split at calls_for
  · cases calls_for
    rfl
  · cases calls_for

/-- The writes of a visit are to its namespace. -/
theorem writtenTo?_of_mem_visitWrites (context : PassContext) (name : String) (request : Request)
    (called_for : request ∈ store.visitWrites context name) : request.writtenTo? = some name := by
  unfold visitWrites at called_for
  split at called_for
  · cases called_for
  · cases known : store.namespace? name with
    | none =>
      rw [known] at called_for
      cases called_for
    | some ns =>
      rw [known] at called_for
      rw [store.writtenTo?_of_mem_passWrites context ns request called_for,
        anyName_of_namespace? known]

/-- Writes to one namespace spare those on their way out if it is none of them, or there are no
writes. -/
theorem spared_iff_of_writtenTo (requests : List Request) (name : String)
    (there : ∀ request ∈ requests, request.writtenTo? = some name) :
    (∀ request ∈ requests, ∀ target, request.writtenTo? = some target →
        store.isTerminating target = false) ↔
      (store.isTerminating name = true → requests = []) := by
  constructor
  · intro spared terminating
    apply List.eq_nil_iff_forall_not_mem.2
    intro request member
    rw [spared request member name (there request member)] at terminating
    cases terminating
  · intro nothing request member target writes
    have here : name = target := Option.some.inj ((there request member).symm.trans writes)
    rw [← here]
    by_contra terminating
    rw [nothing (by simpa using terminating)] at member
    cases member

/-- Where what is called for is sent, or a part of it, namespaces on their way out are spared,
whatever fails, exactly if no write to them is called for. -/
theorem spares_iff_of_sends (expected : List Request) (seen : Faults → List Exchange)
    (sends : ∀ faults, Sends faults expected (seen faults)) :
    (∀ faults, store.Spares (seen faults)) ↔
      ∀ request ∈ expected, ∀ name, request.writtenTo? = some name →
        store.isTerminating name = false := by
  constructor
  · intro spares request called_for name writes
    have sent : request ∈ writesIn (seen noFaults) := by
      rw [(sends noFaults).complete rfl]
      exact called_for
    obtain ⟨⟨e, member, rfl⟩, -⟩ := (mem_writesIn _ request).1 sent
    exact spares noFaults e member name writes
  · intro spared faults e member name writes
    have sent := (mem_writesIn _ e.request).2
      ⟨⟨e, member, rfl⟩, Request.method_of_writtenTo? writes⟩
    exact spared e.request ((sends faults).sublist.mem sent) name writes

end Store

section Spared

variable (context : PassContext) (session : Session)

/-! ### What is sent -/

/-- An event calls for the writes of its pass, and for nothing if it shows the namespace on its way
out. -/
theorem onNamespace_sends (faults : Faults) (ns : Namespace) :
    Sends faults
      (if ns.metadata.isTerminating then [] else session.store.passWrites context ns)
      ((onNamespace context ns).exchanges (Session.handle faults) session) := by
  unfold onNamespace
  split
  · rw [Client.exchanges_pure]
    exact .of_eq rfl
  · rw [Client.exchanges_andThen, Client.exchanges_pure, List.append_nil]
    exact reconcileNamespace_sends context faults session ns

theorem onNamespace_spares_iff (ns : Namespace) :
    (∀ faults, session.store.Spares
        ((onNamespace context ns).exchanges (Session.handle faults) session)) ↔
      (session.store.isTerminating ns.anyName = true →
        ns.metadata.isTerminating = true ∨ session.store.passWrites context ns = []) := by
  rw [session.store.spares_iff_of_sends _ _ fun faults =>
    onNamespace_sends context session faults ns]
  cases shown : ns.metadata.isTerminating with
  | true => simp
  | false =>
    have there := session.store.writtenTo?_of_mem_passWrites context ns
    simpa using session.store.spared_iff_of_writtenTo _ ns.anyName there

theorem reconcileInstance_spares_iff (i : TracingInstance) :
    (∀ faults, session.store.Spares
        ((reconcileInstance context i).exchanges (Session.handle faults) session)) ↔
      ∀ name ∈ session.store.affected i.anyName, session.store.isTerminating name = true →
        session.store.visitWrites context name = [] := by
  rw [session.store.spares_iff_of_sends _ _ fun faults =>
    reconcileInstance_sends context faults i session, List.forall_mem_flatMap]
  have each (name : String) := session.store.spared_iff_of_writtenTo _ name
    (session.store.writtenTo?_of_mem_visitWrites context name)
  simp only [each]

end Spared

/-- An event of a namespace leads to no write to one on its way out, whatever fails, exactly if it
shows the namespace on its way out or its pass would call for nothing.  A pass for an instance
writes nothing there, whatever fails, exactly if no affected namespace on its way out has a workload
whose evaluation calls for a write. -/
theorem terminating_spared_iff (context : PassContext) (session : Session) :
    (∀ ns : Namespace,
      (∀ faults, session.store.Spares
        ((onNamespace context ns).exchanges (Session.handle faults) session)) ↔
      (session.store.isTerminating ns.anyName = true →
        ns.metadata.isTerminating = true ∨ session.store.passWrites context ns = [])) ∧
    ∀ i : TracingInstance,
      (∀ faults, session.store.Spares
        ((reconcileInstance context i).exchanges (Session.handle faults) session)) ↔
      ∀ name ∈ session.store.affected i.anyName, session.store.isTerminating name = true →
        session.store.visitWrites context name = [] := by
  constructor
  · intro ns
    exact onNamespace_spares_iff context session ns
  · intro i
    exact reconcileInstance_spares_iff context session i

/-- The namespace of the sample deployment, on its way out. -/
def Sample.leaving : Namespace where
  metadata :=
    { name := some "store"
      deletionTimestamp := some ⟨"2024-01-02T03:04:05Z", by decide⟩ }

/-- The sample store, with the namespace on its way out. -/
def Sample.leavingStore : Store := { store with namespaces := [leaving] }

/-- The namespace is spared by its own events; where the instance is not watched, it is spared by
those of the instance too. -/
theorem terminating_spared_iff_leaving :
    let session : Session := { store := Sample.leavingStore }
    session.store.isTerminating "store" = true ∧
      (∀ faults, session.store.Spares
        ((onNamespace {} Sample.leaving).exchanges (Session.handle faults) session)) ∧
      ∀ faults, session.store.Spares
        ((reconcileInstance { watched := ["elsewhere"] }
          (Sample.instanceAt "tracing" "prod")).exchanges (Session.handle faults) session) := by
  intro session
  have called_for :
      ∀ name ∈ session.store.affected "prod", session.store.isTerminating name = true →
        session.store.visitWrites { watched := ["elsewhere"] } name = [] := by
    decide +kernel
  refine ⟨by decide, ?_, ?_⟩
  · exact ((terminating_spared_iff {} session).1 Sample.leaving).2 fun _ => Or.inl rfl
  · exact ((terminating_spared_iff { watched := ["elsewhere"] } session).2
      (Sample.instanceAt "tracing" "prod")).2 called_for

/-- A pass for the instance writes the deployment to the namespace on its way out. -/
theorem terminating_written :
    let session : Session := { store := Sample.leavingStore }
    let seen := (reconcileInstance {} (Sample.instanceAt "tracing" "prod")).exchanges
      (Session.handle noFaults) session
    session.store.isTerminating "store" = true ∧
      ∃ e ∈ seen, e.request.method = "PUT" ∧ e.request.writtenTo? = some "store" := by
  decide +kernel

end TracingSidecar
