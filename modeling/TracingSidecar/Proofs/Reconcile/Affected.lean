import TracingSidecar.Proofs.Injection.FixedPoint
import TracingSidecar.Proofs.Reconcile.Store
import TracingSidecar.Reconcile.Instance

/-!
# The namespaces that an instance affects

A pass for an instance skips the namespaces that are not among the affected ones.  In a namespace
that is skipped no workload asks for a sidecar, neither itself nor through the namespace; and where
none is asked for, an evaluation does not look at the instances (`evaluate_of_not_optedIn`).
-/

namespace TracingSidecar

/-! ### Evaluations without an opt-in -/

/-- A workload asks for a sidecar only if it does so itself or its namespace does. -/
theorem isOptedIn_eq_false (w : Workload) (ns : Namespace)
    (own : requestsInjection w.optIn? = false) (inherited : requestsInjection ns.optIn? = false) :
    w.isOptedIn ns = false := by
  unfold Workload.isOptedIn
  cases asked : w.optIn? with
  | none => exact inherited
  | some value =>
    rw [asked] at own
    exact own

/-- Where no sidecar is asked for, the instances do not matter. -/
theorem evaluate_of_not_optedIn (config : InjectorConfig) (ns : Namespace)
    (first second : List TracingInstance) (w : Workload) (opted : w.isOptedIn ns = false) :
    evaluate config ns first w = evaluate config ns second w := by
  have satisfied : w.needsSidecar ns = false := by
    simp [Workload.needsSidecar, opted]
  unfold evaluate
  simp [satisfied, opted]

/-! ### The affected namespaces -/

theorem mem_affectedNamespaces (instanceName : String) (workloads : List Workload)
    (namespaces : List Namespace) (name : String) :
    name ∈ affectedNamespaces instanceName workloads namespaces ↔
      (∃ w ∈ workloads, w.isAffectedBy (Naming.labelValue instanceName) = true ∧
        w.metadata.namespaceName = some name) ∨
      (∃ ns ∈ namespaces, requestsInjection ns.optIn? = true ∧ ns.anyName = name) := by
  unfold affectedNamespaces
  simp [SortedMap.mem_keys_ofList, and_assoc]

/-- Workloads and namespaces that ask for a sidecar are found. -/
theorem affectedNamespaces_complete (instanceName : String) (workloads : List Workload)
    (namespaces : List Namespace) (ns : Namespace) (w : Workload) (known : ns ∈ namespaces)
    (listed : w ∈ workloads) (placed : w.metadata.namespaceName = some ns.anyName)
    (skipped : ns.anyName ∉ affectedNamespaces instanceName workloads namespaces) :
    w.isOptedIn ns = false := by
  rw [mem_affectedNamespaces, not_or] at skipped
  obtain ⟨no_workload, no_namespace⟩ := skipped
  apply isOptedIn_eq_false
  · by_contra asks
    apply no_workload
    refine ⟨w, listed, ?_, placed⟩
    simpa [Workload.isAffectedBy] using Or.inr asks
  · by_contra asks
    exact no_namespace ⟨ns, known, by simpa using asks, rfl⟩

/-! ### Finding them -/

theorem allWorkloads_reads (faults : Faults) (session : Session) (kinds : List WorkloadKind) :
    session.Reads faults (kinds.flatMap fun kind => session.store.listWorkloads kind none)
      ((allWorkloads kinds).run (Session.handle faults) session) := by
  induction kinds generalizing session with
  | nil => exact Session.reads_pure faults session []
  | cons kind rest ih =>
    have first := Session.reads_send faults session (.listWorkloads kind none) _
      (by simp [Request.method]) rfl
    unfold allWorkloads
    refine Session.reads_andThen ?_ first fun later same => ?_
    · exact fun _ => rfl
    have others := ih later
    rw [same] at others
    refine Session.reads_andThen ?_ others fun last _ => ?_
    · exact fun _ => rfl
    exact Session.reads_pure faults last _

/-- The affected namespaces are found among all workloads and namespaces of the store. -/
theorem findAffected_reads (faults : Faults) (session : Session) (instanceName : String) :
    session.Reads faults
      (affectedNamespaces instanceName
        (passKinds.flatMap fun kind => session.store.listWorkloads kind none)
        session.store.namespaces)
      ((findAffected instanceName).run (Session.handle faults) session) := by
  have workloads := allWorkloads_reads faults session passKinds
  unfold findAffected
  refine Session.reads_andThen ?_ workloads fun later same => ?_
  · exact fun _ => rfl
  have namespaces := Session.reads_send faults later .listNamespaces later.store.namespaces
    (by simp [Request.method]) rfl
  rw [same] at namespaces
  refine Session.reads_andThen ?_ namespaces fun last _ => ?_
  · exact fun _ => rfl
  exact Session.reads_pure faults last _

/-- No namespace is missed.  Affected namespaces are found where nothing fails, and whenever they
are found, evaluations in any other namespace do not depend on the instances: with any two lists of
them they do the same to every workload that a pass would go over. -/
theorem findAffected_misses_none (session : Session) (instanceName : String)
    (placed : ∀ s ∈ session.store.workloads,
      s.workload.metadata.namespaceName = some s.namespaceName) :
    (∃ names,
      ((findAffected instanceName).run (Session.handle noFaults) session).1 = .ok names) ∧
    ∀ faults names,
      ((findAffected instanceName).run (Session.handle faults) session).1 = .ok names →
      ∀ ns ∈ session.store.namespaces, ns.anyName ∉ names →
      ∀ s ∈ session.store.workloads, s.namespaceName = ns.anyName → s.workload.kind ∈ passKinds →
      ∀ config first second,
        evaluate config ns first s.workload = evaluate config ns second s.workload := by
  refine ⟨⟨_, (findAffected_reads noFaults session instanceName).complete rfl⟩, ?_⟩
  intro faults names success ns known skipped s stored inside kind config first second
  rw [(findAffected_reads faults session instanceName).answer names success] at skipped
  have listed : s.workload ∈
      passKinds.flatMap fun kind => session.store.listWorkloads kind none := by
    apply List.mem_flatMap.2
    refine ⟨s.workload.kind, kind, List.mem_map.2 ⟨s, ?_, rfl⟩⟩
    exact List.mem_filter.2 ⟨stored, by simp⟩
  have here : s.workload.metadata.namespaceName = some ns.anyName := by
    rw [placed s stored, inside]
  have opted := affectedNamespaces_complete instanceName _ _ ns s.workload known listed here skipped
  exact evaluate_of_not_optedIn config ns first second s.workload opted

/-- A daemon set that asks for nothing. -/
def Sample.idle : Workload where
  metadata := { name := some "idle", namespaceName := some "quiet" }
  body := .daemonSet none

/-- A store with a namespace that is affected by the instance in it, and one that is not. -/
def Sample.quietStore : Store where
  instances := [instanceAt "tracing" "prod"]
  namespaces := [⟨{ name := some "store" }⟩, ⟨{ name := some "quiet" }⟩]
  workloads := [⟨"store", shop⟩, ⟨"quiet", idle⟩]
  distinct := by decide

/-- The quiet namespace is skipped, and its daemon set is evaluated alike for any instances. -/
theorem findAffected_misses_none_quiet :
    ((findAffected "prod").run (Session.handle noFaults) { store := Sample.quietStore }).1 =
        .ok ["store"] ∧
      ∀ config first second,
        evaluate config ⟨{ name := some "quiet" }⟩ first Sample.idle =
          evaluate config ⟨{ name := some "quiet" }⟩ second Sample.idle := by
  have placed : ∀ s ∈ Sample.quietStore.workloads,
      s.workload.metadata.namespaceName = some s.namespaceName := by
    decide
  have found : ((findAffected "prod").run (Session.handle noFaults)
      { store := Sample.quietStore }).1 = .ok ["store"] := rfl
  obtain ⟨-, misses_none⟩ :=
    findAffected_misses_none { store := Sample.quietStore } "prod" placed
  refine ⟨found, ?_⟩
  exact misses_none noFaults ["store"] found _
    (List.mem_cons_of_mem _ List.mem_cons_self) (by decide) ⟨"quiet", Sample.idle⟩
    (List.mem_cons_of_mem _ List.mem_cons_self) rfl (by decide)

end TracingSidecar
