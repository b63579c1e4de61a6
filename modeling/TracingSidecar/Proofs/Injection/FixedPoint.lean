import TracingSidecar.Config.Operator
import TracingSidecar.Proofs.Injection.Binding
import TracingSidecar.Proofs.Injection.Selection

/-!
# Evaluating again

An evaluation leaves the workload, injects an instance into it or cleans it (`Outcome`).  Whatever
it does, a second evaluation with the same namespace and instances finds nothing to do: an injected
workload carries the binding of the instance that is selected for it again, and a cleaned one is
neither bound nor opted in.
-/

namespace TracingSidecar

/-- What an evaluation may do, and what it found when it did. -/
inductive Outcome (config : InjectorConfig) (ns : Namespace) (instances : List TracingInstance)
    (w : Workload) : Evaluation × Workload → Prop
  | kept (evaluation : Evaluation) (unchanged : evaluation = .noOp ∨ evaluation = .noTarget) :
      Outcome config ns instances w (evaluation, w)
  | bound (evaluation : Evaluation) (i : TracingInstance)
      (named : evaluation = .injected i.anyName ∨ evaluation = .updated i.anyName)
      (opted : w.isOptedIn ns = true) (selected : select? w ns instances = some i) :
      Outcome config ns instances w (evaluation, config.inject i w)
  | cleaned (previous : String) (opted : w.isOptedIn ns = false)
      (unbound : w.boundTo? = some previous) :
      Outcome config ns instances w (.cleaned previous, w.clean previous)

/-- An evaluation decides by what a workload asks for and where it stands. -/
theorem evaluate_outcome (config : InjectorConfig) (ns : Namespace)
    (instances : List TracingInstance) (w : Workload) :
    Outcome config ns instances w (evaluate config ns instances w) := by
  unfold evaluate
  split
  · exact .kept _ (Or.inl rfl)
  split
  next needs =>
    have opted : w.isOptedIn ns = true := by
      unfold Workload.needsSidecar at needs
      simp only [Bool.and_eq_true] at needs
      exact needs.1.1
    split
    next i selected => exact .bound _ i (Or.inl rfl) opted selected
    next => exact .kept _ (Or.inr rfl)
  split
  next => exact .kept _ (Or.inl rfl)
  next previous unbound =>
    split
    · exact .kept _ (Or.inl rfl)
    split
    next declined =>
      have opted : w.isOptedIn ns = false := by simpa using declined
      exact .cleaned previous opted unbound
    next accepted =>
      have opted : w.isOptedIn ns = true := by simpa using accepted
      split
      next => exact .kept _ (Or.inr rfl)
      next i selected =>
        dsimp only
        split
        · exact .kept _ (Or.inl rfl)
        · exact .bound _ i (Or.inr rfl) opted selected

/-- What holds of a workload as it is, injected and cleaned holds of it evaluated. -/
theorem evaluate_cases {motive : Workload → Prop} (config : InjectorConfig) (ns : Namespace)
    (instances : List TracingInstance) (w : Workload) (kept : motive w)
    (bound : ∀ i, motive (config.inject i w))
    (cleaned : ∀ previous, w.isOptedIn ns = false → motive (w.clean previous)) :
    motive (evaluate config ns instances w).2 := by
  have outcome := evaluate_outcome config ns instances w
  generalize evaluate config ns instances w = once at outcome ⊢
  cases outcome with
  | kept evaluation unchanged => exact kept
  | bound evaluation i named opted selected => exact bound i
  | cleaned previous opted unbound => exact cleaned previous opted

/-- A workload that has an agent does not need another one. -/
theorem Workload.needsSidecar_of_hasAgent (w : Workload) (ns : Namespace)
    (agent : w.hasAgent = true) : w.needsSidecar ns = false := by
  simp [needsSidecar, agent]

/-- A workload that carries the binding of the instance selected for it is left alone. -/
theorem evaluate_of_carries (config : InjectorConfig) (ns : Namespace)
    (instances : List TracingInstance) (i : TracingInstance) (w : Workload)
    (carries : w.Carries config i) (opted : w.isOptedIn ns = true)
    (selected : select? w ns instances = some i) :
    evaluate config ns instances w = (.noOp, w) := by
  have agent := carries.hasAgent
  have satisfied := w.needsSidecar_of_hasAgent ns agent
  have same := config.inject_eq_self i w carries
  unfold evaluate
  split
  · rfl
  · simp [satisfied, carries.bound, agent, opted, selected, same]

/-- A workload that is neither bound nor opted in is left alone. -/
theorem evaluate_of_unbound (config : InjectorConfig) (ns : Namespace)
    (instances : List TracingInstance) (w : Workload) (opted : w.isOptedIn ns = false)
    (unbound : w.boundTo? = none) : evaluate config ns instances w = (.noOp, w) := by
  have satisfied : w.needsSidecar ns = false := by
    simp [Workload.needsSidecar, opted]
  unfold evaluate
  split
  · rfl
  · simp [satisfied, unbound]

/-- Nothing is left to do for a workload: an evaluation neither changes nor wants to change it. -/
def Workload.Steady (config : InjectorConfig) (ns : Namespace) (instances : List TracingInstance)
    (w : Workload) : Prop :=
  ∃ evaluation, (evaluation = .noOp ∨ evaluation = .noTarget) ∧
    evaluate config ns instances w = (evaluation, w)

/-- What an evaluation leaves is steady.  Only in a pod do the default annotations stand where a
workload asks for a sidecar. -/
theorem steady_evaluate (config : InjectorConfig) (ns : Namespace)
    (instances : List TracingInstance) (w : Workload) (plain : w.PlainNames)
    (leaves : w.kind = .pod → config.LeavesOptIn) :
    (evaluate config ns instances w).2.Steady config ns instances := by
  have outcome := evaluate_outcome config ns instances w
  generalize result : evaluate config ns instances w = once at outcome ⊢
  cases outcome with
  | kept evaluation unchanged => exact ⟨evaluation, unchanged, result⟩
  | bound evaluation i named opted selected =>
    -- The injected workload asks for the same, so the same instance is selected for it again.
    have carries := config.carries_inject i w plain
    have asks := config.optIn?_inject i w leaves
    have still_opted := isOptedIn_congr w (config.inject i w) ns asks
    have still_selected := select?_congr w (config.inject i w) ns instances asks
      (config.identity_inject i w).1
    rw [opted] at still_opted
    rw [selected] at still_selected
    exact ⟨.noOp, Or.inl rfl,
      evaluate_of_carries config ns instances i _ carries still_opted still_selected⟩
  | cleaned previous opted unbound =>
    have still_opted := isOptedIn_congr w (w.clean previous) ns (w.optIn?_clean previous)
    rw [opted] at still_opted
    exact ⟨.noOp, Or.inl rfl,
      evaluate_of_unbound config ns instances _ still_opted (w.boundTo?_clean previous)⟩

/-- An evaluation that does not ask for the workload to be stored left it as it was. -/
theorem steady_of_not_changed (config : InjectorConfig) (ns : Namespace)
    (instances : List TracingInstance) (w : Workload)
    (unchanged : (evaluate config ns instances w).1.changed = false) :
    w.Steady config ns instances := by
  have outcome := evaluate_outcome config ns instances w
  generalize result : evaluate config ns instances w = once at outcome unchanged
  cases outcome with
  | kept evaluation nothing => exact ⟨evaluation, nothing, result⟩
  | bound evaluation i named opted selected => rcases named with rfl | rfl <;> cases unchanged
  | cleaned previous opted unbound => cases unchanged

/-- An evaluation changes neither the kind nor the name of a workload. -/
theorem identity_evaluate (config : InjectorConfig) (ns : Namespace)
    (instances : List TracingInstance) (w : Workload) :
    (evaluate config ns instances w).2.kind = w.kind ∧
      (evaluate config ns instances w).2.anyName = w.anyName := by
  apply evaluate_cases (motive := fun later => later.kind = w.kind ∧ later.anyName = w.anyName)
  · exact ⟨rfl, rfl⟩
  · exact fun i => ⟨config.kind_inject i w, (config.identity_inject i w).2.2⟩
  · exact fun previous _ => ⟨w.kind_clean previous, (w.identity_clean previous).2.2⟩

theorem namespaceName_evaluate (config : InjectorConfig) (ns : Namespace)
    (instances : List TracingInstance) (w : Workload) :
    (evaluate config ns instances w).2.metadata.namespaceName = w.metadata.namespaceName := by
  apply evaluate_cases
    (motive := fun later => later.metadata.namespaceName = w.metadata.namespaceName)
  · rfl
  · exact fun i => (config.identity_inject i w).1
  · exact fun previous _ => (w.identity_clean previous).1

/-- An evaluated workload has the version of the one that was evaluated. -/
theorem resourceVersion_evaluate (config : InjectorConfig) (ns : Namespace)
    (instances : List TracingInstance) (w : Workload) :
    (evaluate config ns instances w).2.metadata.resourceVersion = w.metadata.resourceVersion := by
  apply evaluate_cases
    (motive := fun later => later.metadata.resourceVersion = w.metadata.resourceVersion)
  · rfl
  · intro i
    rw [config.metadata_inject]
    split <;> rfl
  · intro previous _
    rw [w.metadata_clean]
    rfl

/-- An evaluation brings no comma into the names. -/
theorem plainNames_evaluate (config : InjectorConfig) (ns : Namespace)
    (instances : List TracingInstance) (w : Workload) (plain : w.PlainNames) :
    (evaluate config ns instances w).2.PlainNames := by
  apply evaluate_cases (motive := Workload.PlainNames)
  · exact plain
  · exact fun i => config.plainNames_inject i w plain
  · exact fun previous _ => w.plainNames_clean previous plain

/-- The injector of an operator leaves the opt-in alone, whatever its environment says. -/
theorem OperatorConfig.leavesOptIn_injector (config : OperatorConfig) :
    config.injector.LeavesOptIn :=
  leavesOptIn_of_metricsAnnotations config.injector rfl

/-- Evaluation reaches its fixed point in one step: evaluated again, with the same namespace and
instances, the workload that an evaluation left needs no change and gets none. -/
theorem evaluate_fixedPoint (config : InjectorConfig) (ns : Namespace)
    (instances : List TracingInstance) (w : Workload) (plain : w.PlainNames)
    (leaves : config.LeavesOptIn) :
    let once := (evaluate config ns instances w).2
    let again := evaluate config ns instances once
    (again.1 = .noOp ∨ again.1 = .noTarget) ∧ again.2 = once := by
  obtain ⟨evaluation, nothing, result⟩ := steady_evaluate config ns instances w plain fun _ => leaves
  intro once again
  have same : again = (evaluation, once) := result
  rw [same]
  exact ⟨nothing, rfl⟩

/-- A deployment that asks for any instance and is bound to one named `old`. -/
def Sample.shop : Workload where
  metadata :=
    { name := some "shop", namespaceName := some "store"
      annotations := some (.ofList [(injectKey, "true")])
      labels := some (.ofList [(boundLabel, "old")]) }
  body := .deployment (some
    { settings := {}
      template := { spec := some { containers := [{ name := "web" }, { name := agentName }] } } })

theorem Sample.plainNames_shop : shop.PlainNames := by
  constructor
  · intro name given
    cases given
    decide
  · decide
  · decide

/-- The first evaluation binds the sample to another instance, the second finds nothing to do. -/
theorem evaluate_fixedPoint_shop :
    let candidates := [Sample.instanceAt "tracing" "prod"]
    (evaluate {} {} candidates Sample.shop).1 = .updated "prod" ∧
      let once := (evaluate {} {} candidates Sample.shop).2
      let again := evaluate {} {} candidates once
      (again.1 = .noOp ∨ again.1 = .noTarget) ∧ again.2 = once := by
  have leaves : ({} : InjectorConfig).LeavesOptIn := leavesOptIn_of_metricsAnnotations {} rfl
  exact ⟨by decide, evaluate_fixedPoint {} {} _ Sample.shop Sample.plainNames_shop leaves⟩

end TracingSidecar
