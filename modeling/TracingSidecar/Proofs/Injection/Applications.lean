import Mathlib.Data.List.Forall2
import TracingSidecar.Proofs.Injection.Pods

/-!
# What becomes of the application containers

Injections put an agent among the containers, refresh it and take it away again, in any order and
any number of times.  The application containers stay what they are and where they are among each
other; all that an evaluation does to them is to append the service name and the trace context
formats to variables that do not have them (`Container.Kept`).  One evaluation keeps the relation to
the containers of the beginning (`kept_apply`), hence every run does (`applications_after`).
-/

namespace TracingSidecar

/-- The containers of a workload that are not the agent, in their order. -/
def Workload.applications (w : Workload) : List Container := w.containers.filter (!·.isAgent)

/-- Variables with at most a service name and trace context formats behind them, neither of which
was there before. -/
def AddsVariables (original later : List EnvVar) : Prop :=
  ∃ added, later = original ++ added ∧ NamesDiffer (·.name) added ∧
    ∀ v ∈ added, (v.name = serviceNameVariable ∨ v.name = propagationVariable) ∧
      hasVariable v.name original = false

/-- A container that is the same in all but its variables, which may have been added to. -/
structure Container.Kept (original later : Container) : Prop where
  same : later = { original with env := later.env }
  adds : AddsVariables (original.env.getD []) (later.env.getD [])

theorem AddsVariables.refl (env : List EnvVar) : AddsVariables env env :=
  ⟨[], (List.append_nil env).symm, List.Pairwise.nil, nofun⟩

/-- A variable that is added behind others is neither among the first of them nor added twice. -/
theorem AddsVariables.addMissingVariable (original later : List EnvVar) (name value : String)
    (adds : AddsVariables original later)
    (known : name = serviceNameVariable ∨ name = propagationVariable) :
    AddsVariables original (addMissingVariable name value later) := by
  unfold TracingSidecar.addMissingVariable
  split
  next => exact adds
  next missing =>
    obtain ⟨added, rfl, differ, appended⟩ := adds
    have absent : hasVariable name (original ++ added) = false := by
      simpa [hasVariable] using missing
    rw [hasVariable, List.any_append, Bool.or_eq_false_iff] at absent
    obtain ⟨not_before, not_added⟩ := absent
    refine ⟨added ++ [.ofText name value], List.append_assoc _ _ _, ?_, ?_⟩
    · apply List.pairwise_append.2
      refine ⟨differ, List.pairwise_singleton _ _, ?_⟩
      intro v member last last_member
      rw [List.mem_singleton.1 last_member]
      simpa [EnvVar.ofText] using List.any_eq_false.1 not_added v member
    · intro v member
      rcases List.mem_append.1 member with earlier | last
      · exact appended v earlier
      · rw [List.mem_singleton.1 last]
        exact ⟨known, not_before⟩

theorem AddsVariables.decorateEnv (original later : List EnvVar) (serviceName : Option String)
    (propagation : String) (adds : AddsVariables original later) :
    AddsVariables original (decorateEnv serviceName propagation later) := by
  unfold TracingSidecar.decorateEnv
  apply AddsVariables.addMissingVariable _ _ _ _ _ (Or.inr rfl)
  cases serviceName with
  | none => exact adds
  | some name => exact AddsVariables.addMissingVariable _ _ _ _ adds (Or.inl rfl)

theorem Container.Kept.refl (c : Container) : Kept c c := ⟨rfl, AddsVariables.refl _⟩

/-- A container that was kept so far is kept by another decoration. -/
theorem Container.Kept.decorate (original later : Container) (serviceName : Option String)
    (propagation : String) (kept : Kept original later) :
    Kept original (later.decorate serviceName propagation) := by
  rw [Container.decorate_eq]
  split
  next => exact kept
  next => exact ⟨by rw [kept.same], AddsVariables.decorateEnv _ _ _ _ kept.adds⟩

/-- An injection decorates the application containers, and that is all it does to them. -/
theorem InjectorConfig.applications_inject (config : InjectorConfig) (i : TracingInstance)
    (w : Workload) : (config.inject i w).applications =
      w.applications.map (·.decorate w.serviceName? config.propagation) := by
  rw [Workload.applications, containers_inject, containers_prepare,
    filter_placeAgent _ _ (isAgent_placed config i w), List.filter_map, Workload.applications]
  simp only [Function.comp_def, Container.isAgent_decorate]

theorem Workload.applications_clean (instanceName : String) (w : Workload) :
    (w.clean instanceName).applications = w.applications := by
  rw [applications, containers_clean, List.filter_filter, applications]
  simp only [Bool.and_self]

/-- Containers that were kept so far are kept by another evaluation. -/
theorem Occasion.kept_apply (o : Occasion) (w : Workload) (originals : List Container)
    (kept : List.Forall₂ Container.Kept originals w.applications) :
    List.Forall₂ Container.Kept originals (o.apply w).applications := by
  refine o.cases w (motive := fun _ later =>
    List.Forall₂ Container.Kept originals later.applications) kept ?_ ?_
  · intro i opted selected
    rw [InjectorConfig.applications_inject]
    exact List.forall₂_map_right_iff.2 (kept.imp fun original later one_kept =>
      Container.Kept.decorate original later _ _ one_kept)
  · intro previous unbound
    rw [Workload.applications_clean]
    exact kept

/-- No run of evaluations clobbers an application container: each is still there, in its place among
the others, and has all it had and at most the two variables of a decoration that it had not.  Init
containers are left alone. -/
theorem applications_after (w : Workload) (run : List Occasion) :
    List.Forall₂ Container.Kept w.applications (w.after run).applications ∧
      (w.after run).pods.initContainers = w.pods.initContainers := by
  constructor
  · apply Workload.after_induction
      (P := fun later => List.Forall₂ Container.Kept w.applications later.applications) run w
    · exact List.forall₂_same.2 fun c _ => Container.Kept.refl c
    · intro o _ later kept
      exact o.kept_apply later w.applications kept
  · apply Workload.after_induction
      (P := fun later => later.pods.initContainers = w.pods.initContainers) run w rfl
    intro o _ later same
    rw [o.initContainers_apply later, same]

end TracingSidecar
