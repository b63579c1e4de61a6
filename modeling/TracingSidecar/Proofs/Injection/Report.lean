import TracingSidecar.Proofs.Injection.Run

/-!
# What an evaluation reports

The report of an evaluation is true.  It says that the workload was changed exactly if it was
(`changed_iff_ne`), so that what is stored on its word is what has to be stored.  And it names the
binding that the workload is left with: a binding is written in two places, the marker label and the
list of containers, and every evaluation of a run leaves both as it reports (`binding_after`).
-/

namespace TracingSidecar

namespace Workload

/-- The number of agent containers. -/
def agentCount (w : Workload) : Nat := w.containers.countP Container.isAgent

/-- A workload that is marked as bound has an agent. -/
def MarkerHeld (w : Workload) : Prop := ∀ marker, w.boundTo? = some marker → w.hasAgent = true

theorem hasAgent_of_agentCount (w : Workload) (some_agent : 0 < w.agentCount) :
    w.hasAgent = true :=
  List.any_eq_true.2 (List.countP_pos_iff.1 some_agent)

end Workload

/-! ### The agents -/

/-- The agent takes the place of one that is there, or comes to the containers as their only one. -/
theorem countP_placeAgent (sidecar : Container) (containers : List Container)
    (agent : sidecar.isAgent = true) :
    (placeAgent sidecar containers).countP Container.isAgent =
      max 1 (containers.countP Container.isAgent) := by
  induction containers with
  | nil => simp [placeAgent, agent]
  | cons first rest ih =>
    unfold placeAgent
    split
    next first_agent =>
      rw [List.countP_cons_of_pos agent, List.countP_cons_of_pos first_agent]
      omega
    next other => rw [List.countP_cons_of_neg other, List.countP_cons_of_neg other, ih]

theorem InjectorConfig.agentCount_inject (config : InjectorConfig) (i : TracingInstance)
    (w : Workload) : (config.inject i w).agentCount = max 1 w.agentCount := by
  rw [Workload.agentCount, containers_inject, containers_prepare,
    countP_placeAgent _ _ (isAgent_placed config i w), List.countP_map, Workload.agentCount]
  simp only [Function.comp_def, Container.isAgent_decorate]

theorem InjectorConfig.hasAgent_inject (config : InjectorConfig) (i : TracingInstance)
    (w : Workload) : (config.inject i w).hasAgent = true := by
  have some_agent : 0 < (config.inject i w).agentCount := by
    rw [agentCount_inject]
    omega
  exact Workload.hasAgent_of_agentCount _ some_agent

theorem Workload.agentCount_clean (instanceName : String) (w : Workload) :
    (w.clean instanceName).agentCount = 0 := by
  rw [agentCount, containers_clean, List.countP_eq_zero]
  intro c member
  simpa using (List.mem_filter.1 member).2

theorem Workload.hasAgent_clean (instanceName : String) (w : Workload) :
    (w.clean instanceName).hasAgent = false := by
  have none_left := List.countP_eq_zero.1 (w.agentCount_clean instanceName)
  exact List.any_eq_false.2 none_left

/-! ### Changes -/

/-- What tells the workloads before and after an evaluation apart, if the report says that they
differ. -/
def Evaluation.Changes (w later : Workload) : Evaluation → Prop
  | .noOp | .noTarget => later = w
  | .injected _ => w.hasAgent = false ∧ later.hasAgent = true
  | .updated _ => later ≠ w
  | .cleaned _ => w.hasAgent = true ∧ later.hasAgent = false

/-- A sidecar is injected where there was none, and cleaned away where there was one; only for a
refresh are the workloads compared. -/
theorem evaluate_changes (config : InjectorConfig) (ns : Namespace)
    (instances : List TracingInstance) (w : Workload) :
    (evaluate config ns instances w).1.Changes w (evaluate config ns instances w).2 := by
  unfold evaluate
  split
  · rfl
  split
  next needs =>
    have no_agent : w.hasAgent = false := by
      unfold Workload.needsSidecar at needs
      simp only [Bool.and_eq_true, Bool.not_eq_true'] at needs
      exact needs.2
    split
    next i _ => exact ⟨no_agent, config.hasAgent_inject i w⟩
    next => rfl
  split
  next => rfl
  next previous _ =>
    split
    · rfl
    next present =>
      have agent : w.hasAgent = true := by simpa using present
      split
      · exact ⟨agent, w.hasAgent_clean previous⟩
      split
      · rfl
      dsimp only
      split
      · rfl
      next different => exact different

/-- An evaluation reports a change exactly if the workload is not what it was. -/
theorem changed_iff_ne (config : InjectorConfig) (ns : Namespace)
    (instances : List TracingInstance) (w : Workload) :
    (evaluate config ns instances w).1.changed = true ↔ (evaluate config ns instances w).2 ≠ w := by
  have told := evaluate_changes config ns instances w
  generalize evaluate config ns instances w = result at told ⊢
  obtain ⟨evaluation, later⟩ := result
  cases evaluation with
  | noOp | noTarget =>
    have same : later = w := told
    simp [Evaluation.changed, same]
  | updated _ =>
    have different : later ≠ w := told
    simp [Evaluation.changed, different]
  | injected _ | cleaned _ =>
    obtain ⟨before, after⟩ := told
    have different : later ≠ w := by
      rintro rfl
      rw [before] at after
      cases after
    simp [Evaluation.changed, different]

/-! ### Bindings -/

namespace Occasion

variable (o : Occasion) (w : Workload)

/-- The evaluation leaves the binding that it reports: to the selected instance, which it names,
with one agent and that instance's marker, or none where it reports whose agent it removed. -/
def LeavesReported : Prop :=
  match o.evaluation w with
  | .injected name | .updated name =>
      (∃ i, select? w o.ns o.instances = some i ∧ i.anyName = name) ∧
        (o.apply w).agentCount = 1 ∧ (o.apply w).boundTo? = some (Naming.labelValue name)
  | .cleaned marker =>
      w.boundTo? = some marker ∧ (o.apply w).agentCount = 0 ∧ (o.apply w).boundTo? = none
  | .noOp | .noTarget => o.apply w = w

theorem agentCount_apply (one : w.agentCount ≤ 1) : (o.apply w).agentCount ≤ 1 := by
  refine o.cases w (motive := fun _ later => later.agentCount ≤ 1) one ?_ ?_
  · intro i _ _
    rw [InjectorConfig.agentCount_inject]
    omega
  · intro previous _
    rw [Workload.agentCount_clean]
    omega

/-- Marker and agent come together and go together. -/
theorem markerHeld_apply (held : w.MarkerHeld) : (o.apply w).MarkerHeld := by
  refine o.cases w (motive := fun _ later => later.MarkerHeld) held ?_ ?_
  · intro i _ _ _ _
    exact o.config.hasAgent_inject i w
  · intro previous _ marker bound
    rw [Workload.boundTo?_clean] at bound
    cases bound

theorem leavesReported (one : w.agentCount ≤ 1) : o.LeavesReported w := by
  have outcome := evaluate_outcome o.config o.ns o.instances w
  unfold LeavesReported evaluation apply
  generalize evaluate o.config o.ns o.instances w = result at outcome ⊢
  cases outcome with
  | kept evaluation unchanged => rcases unchanged with rfl | rfl <;> rfl
  | bound evaluation i named opted selected =>
    have single : (o.config.inject i w).agentCount = 1 := by
      rw [InjectorConfig.agentCount_inject]
      omega
    have marked := o.config.boundTo?_inject i w
    rcases named with rfl | rfl
    · exact ⟨⟨i, selected, rfl⟩, single, marked⟩
    · exact ⟨⟨i, selected, rfl⟩, single, marked⟩
  | cleaned previous opted unbound =>
    exact ⟨unbound, w.agentCount_clean previous, w.boundTo?_clean previous⟩

end Occasion

/-- After every run of evaluations there is at most one agent, and it is there whenever the marker
is, if the marker was not there without it from the beginning; and the next evaluation, whatever it
is made with, leaves the binding that it reports. -/
theorem binding_after (w : Workload) (run : List Occasion) (o : Occasion)
    (one : w.agentCount ≤ 1) :
    (w.after run).agentCount ≤ 1 ∧ (w.boundTo? = none → (w.after run).MarkerHeld) ∧
      o.LeavesReported (w.after run) := by
  have still_one := Workload.after_induction (P := fun later => later.agentCount ≤ 1) run w one
    fun o _ later => o.agentCount_apply later
  refine ⟨still_one, ?_, o.leavesReported _ still_one⟩
  intro unbound
  have held : w.MarkerHeld := by simp [Workload.MarkerHeld, unbound]
  exact Workload.after_induction (P := Workload.MarkerHeld) run w held
    fun o _ later => o.markerHeld_apply later

/-- A sample is bound, and cleaned when its namespace asks for nothing any more. -/
theorem binding_after_prod :
    let w := Sample.deploymentWith []
    let run := [Sample.binding {} (Sample.instanceAt "tracing" "prod")]
    w.agentCount ≤ 1 ∧ w.boundTo? = none ∧ (w.after run).MarkerHeld ∧
      ({} : Occasion).evaluation (w.after run) = .cleaned "prod" ∧
      ({} : Occasion).LeavesReported (w.after run) := by
  intro w run
  have one : w.agentCount ≤ 1 := by decide
  obtain ⟨-, held, reported⟩ := binding_after w run {} one
  exact ⟨one, by decide, held (by decide), by decide, reported⟩

end TracingSidecar
