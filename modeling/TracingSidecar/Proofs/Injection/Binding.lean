import TracingSidecar.Proofs.Injection.Frame
import TracingSidecar.Proofs.Injection.Sidecar

/-!
# What injection leaves

A workload that an instance was injected into carries the whole binding: the marker label, full
annotations, decorated containers, a sidecar that would be built again as it is, and the secrets and
volumes of the instance (`Carries`).  Every injection establishes this (`carries_inject`), and
nothing is left to do where it holds (`inject_eq_self`), so a second injection of the same instance
changes nothing.
-/

namespace TracingSidecar

/-! ### Containers -/

/-- The variables of an application container after decoration. -/
def decorateEnv (serviceName : Option String) (propagation : String) (env : List EnvVar) :
    List EnvVar :=
  addMissingVariable propagationVariable propagation <|
    match serviceName with
    | some name => addMissingVariable serviceNameVariable name env
    | none => env

theorem Container.decorate_eq (serviceName : Option String) (propagation : String) (c : Container) :
    c.decorate serviceName propagation =
      if c.isAgent then c
      else { c with env := some (decorateEnv serviceName propagation (c.env.getD [])) } := by
  unfold decorate decorateEnv
  cases serviceName <;> rfl

/-- Whether there is a variable of a name. -/
def hasVariable (name : String) (env : List EnvVar) : Bool := env.any (·.name = name)

theorem addMissingVariable_eq_self (name value : String) (env : List EnvVar)
    (present : hasVariable name env = true) : addMissingVariable name value env = env := by
  unfold addMissingVariable
  exact if_pos present

theorem hasVariable_addMissingVariable (name value : String) (env : List EnvVar) :
    hasVariable name (addMissingVariable name value env) = true := by
  unfold addMissingVariable
  split
  next present => exact present
  next => simp [hasVariable, EnvVar.ofText]

theorem hasVariable_addMissingVariable_of (name other value : String) (env : List EnvVar)
    (present : hasVariable other env = true) :
    hasVariable other (addMissingVariable name value env) = true := by
  unfold addMissingVariable
  split
  next => exact present
  next =>
    unfold hasVariable at present ⊢
    rw [List.any_append, present, Bool.true_or]

theorem decorateEnv_again (serviceName : Option String) (propagation : String)
    (env : List EnvVar) :
    decorateEnv serviceName propagation (decorateEnv serviceName propagation env) =
      decorateEnv serviceName propagation env := by
  cases serviceName with
  | none =>
    exact addMissingVariable_eq_self _ _ _ (hasVariable_addMissingVariable _ _ _)
  | some name =>
    have service := hasVariable_addMissingVariable serviceNameVariable name env
    have still := hasVariable_addMissingVariable_of propagationVariable serviceNameVariable
      propagation _ service
    have propagated := hasVariable_addMissingVariable propagationVariable propagation
      (addMissingVariable serviceNameVariable name env)
    simp only [decorateEnv, addMissingVariable_eq_self _ _ _ still,
      addMissingVariable_eq_self _ _ _ propagated]

namespace Container

@[simp] theorem name_decorate (serviceName : Option String) (propagation : String)
    (c : Container) : (c.decorate serviceName propagation).name = c.name := by
  rw [decorate_eq]
  split <;> rfl

@[simp] theorem isAgent_decorate (serviceName : Option String) (propagation : String)
    (c : Container) : (c.decorate serviceName propagation).isAgent = c.isAgent := by
  simp [isAgent]

theorem decorate_of_isAgent (serviceName : Option String) (propagation : String) (c : Container)
    (agent : c.isAgent = true) : c.decorate serviceName propagation = c := by
  rw [decorate_eq, if_pos agent]

/-- A decorated container has all that decoration adds. -/
theorem decorate_again (serviceName : Option String) (propagation : String) (c : Container) :
    (c.decorate serviceName propagation).decorate serviceName propagation =
      c.decorate serviceName propagation := by
  by_cases agent : c.isAgent = true
  · rw [decorate_of_isAgent _ _ c agent, decorate_of_isAgent _ _ c agent]
  · have decorated_no_agent := agent
    rw [← isAgent_decorate serviceName propagation c] at decorated_no_agent
    rw [decorate_eq _ _ (c.decorate serviceName propagation), if_neg decorated_no_agent,
      decorate_eq, if_neg agent, Option.getD_some, decorateEnv_again]

end Container

/-! ### The place of the agent -/

theorem mem_placeAgent (sidecar c : Container) (containers : List Container)
    (member : c ∈ placeAgent sidecar containers) : c = sidecar ∨ c ∈ containers := by
  induction containers with
  | nil => exact Or.inl (List.mem_singleton.1 member)
  | cons first rest ih =>
    unfold placeAgent at member
    split at member
    · exact (List.mem_cons.1 member).imp id (List.mem_cons_of_mem _)
    · rcases List.mem_cons.1 member with equal | later
      · exact Or.inr (equal ▸ List.mem_cons_self)
      · exact (ih later).imp id (List.mem_cons_of_mem _)

/-- The placed agent is the first one. -/
theorem find?_placeAgent (sidecar : Container) (containers : List Container)
    (agent : sidecar.isAgent = true) :
    (placeAgent sidecar containers).find? Container.isAgent = some sidecar := by
  induction containers with
  | nil => simp [placeAgent, agent]
  | cons first rest ih =>
    unfold placeAgent
    split
    next => simp [agent]
    next other => simp [other, ih]

/-- Placing the agent leaves the application containers alone. -/
theorem filter_placeAgent (sidecar : Container) (containers : List Container)
    (agent : sidecar.isAgent = true) :
    (placeAgent sidecar containers).filter (!·.isAgent) = containers.filter (!·.isAgent) := by
  induction containers with
  | nil => simp [placeAgent, agent]
  | cons first rest ih =>
    unfold placeAgent
    split
    next first_agent => simp [agent, first_agent]
    next other => simp [other, ih]

/-- Placing the agent that is there already changes nothing. -/
theorem placeAgent_eq_self (sidecar : Container) (containers : List Container)
    (placed : containers.find? Container.isAgent = some sidecar) :
    placeAgent sidecar containers = containers := by
  induction containers with
  | nil => cases placed
  | cons first rest ih =>
    unfold placeAgent
    split
    next agent =>
      rw [List.find?_cons_of_pos agent] at placed
      cases placed
      rfl
    next other =>
      rw [List.find?_cons_of_neg other] at placed
      rw [ih placed]

/-! ### A bound workload -/

/-- A workload that has all that an injection of an instance adds. -/
structure Workload.Carries (config : InjectorConfig) (i : TracingInstance) (w : Workload) :
    Prop where
  bound : w.boundTo? = some i.marker
  annotated : ∃ m, w.templateMetadata? = some m ∧ m.fillAnnotations config.defaultAnnotations = m
  decorated : ∀ c ∈ w.containers, c.decorate w.serviceName? config.propagation = c
  sidecar : ∃ s, w.agent? = some s ∧ config.sidecar i w (some s) = s
  provided : ∃ spec, w.podSpec? = some spec ∧
    HoldsNamed (·.name) i.spec.agent.settings.imagePullSecrets spec.imagePullSecrets ∧
    HoldsNamed (·.name) (config.sidecarVolumes i) spec.volumes

theorem Workload.hasAgent_of_agent? (w : Workload) (agent : Container)
    (found : w.agent? = some agent) : w.hasAgent = true :=
  List.any_eq_true.2 ⟨agent, List.mem_of_find?_eq_some found, List.find?_some found⟩

theorem Workload.Carries.hasAgent {config : InjectorConfig} {i : TracingInstance} {w : Workload}
    (carries : w.Carries config i) : w.hasAgent = true := by
  obtain ⟨s, found, -⟩ := carries.sidecar
  exact w.hasAgent_of_agent? s found

theorem Workload.unbindFrom_eq_self (marker : String) (w : Workload)
    (bound : w.boundTo? = some marker) : w.unbindFrom marker = w := by
  unfold unbindFrom
  rw [bound]
  exact if_pos rfl

theorem Workload.decorate_eq_self (config : InjectorConfig) (w : Workload) (spec : PodSpec)
    (present : w.podSpec? = some spec)
    (decorated : ∀ c ∈ w.containers, c.decorate w.serviceName? config.propagation = c) :
    w.decorate config = w := by
  apply modifyPodSpec_eq_self _ w spec present
  rw [containers_eq w spec present] at decorated
  rw [List.map_congr_left decorated, List.map_id']

/-- A specification that has the agent and all that it brings along keeps what it has. -/
theorem PodSpec.addSidecar_eq_self (config : InjectorConfig) (i : TracingInstance)
    (sidecar : Container) (spec : PodSpec)
    (placed : spec.containers.find? Container.isAgent = some sidecar)
    (secrets : HoldsNamed (·.name) i.spec.agent.settings.imagePullSecrets spec.imagePullSecrets)
    (volumes : HoldsNamed (·.name) (config.sidecarVolumes i) spec.volumes) :
    spec.addSidecar config i sidecar = spec := by
  have same_containers := placeAgent_eq_self sidecar spec.containers placed
  have same_secrets := joinNamed_eq_self _ _ _ secrets
  have same_volumes := joinNamed_eq_self _ _ _ volumes
  unfold joinNamed at same_secrets same_volumes
  simp only [addSidecar, distinctSecrets, distinctVolumes, same_containers, same_secrets,
    same_volumes]

namespace InjectorConfig

variable (config : InjectorConfig) (i : TracingInstance) (w : Workload)

theorem prepare_eq_self (carries : w.Carries config i) : config.prepare i w = w := by
  obtain ⟨m, present, full⟩ := carries.annotated
  obtain ⟨spec, specified, -⟩ := carries.provided
  have unbound := Workload.unbindFrom_eq_self i.marker w carries.bound
  have decorated := Workload.decorate_eq_self config w spec specified carries.decorated
  rw [prepare, unbound, decorated]
  exact Workload.modifyTemplateMetadata_eq_self _ w m present full

/-- An injection leaves a workload that carries the binding as it is. -/
theorem inject_eq_self (carries : w.Carries config i) : config.inject i w = w := by
  obtain ⟨s, agent, fixed⟩ := carries.sidecar
  obtain ⟨spec, specified, secrets, volumes⟩ := carries.provided
  have placed : spec.containers.find? Container.isAgent = some s := by
    rw [← Workload.containers_eq w spec specified]
    exact agent
  have same_spec := PodSpec.addSidecar_eq_self config i s spec placed secrets volumes
  have same_workload := Workload.modifyPodSpec_eq_self _ w spec specified same_spec
  simp only [inject, prepare_eq_self config i w carries, agent, fixed, same_workload]
  exact Workload.modifyMetadata_eq_self _ w (ObjectMeta.setLabel_eq_self _ _ _ carries.bound)

/-- Preparing leaves the agent alone. -/
theorem agent?_prepare : (config.prepare i w).agent? = w.agent? := by
  rw [Workload.agent?, containers_prepare, Workload.agent?]
  induction w.containers with
  | nil => rfl
  | cons c rest ih =>
    rw [List.map_cons, List.find?_cons, List.find?_cons, Container.isAgent_decorate, ih]
    by_cases agent : c.isAgent = true
    · rw [agent, Container.decorate_of_isAgent _ _ c agent]
    · rw [Bool.not_eq_true] at agent
      rw [agent]

theorem isAgent_placed : (config.placed i w).isAgent = true := by
  simp [placed]

theorem agent?_inject : (config.inject i w).agent? = some (config.placed i w) := by
  rw [Workload.agent?, containers_inject]
  exact find?_placeAgent _ _ (isAgent_placed config i w)

/-- Preparing changes none of the names. -/
theorem plainNames_prepare (plain : w.PlainNames) : (config.prepare i w).PlainNames := by
  have same_namespace : (config.prepare i w).metadata.namespaceName = w.metadata.namespaceName := by
    rw [metadata_prepare]
    split <;> rfl
  have same_name : (config.prepare i w).anyName = w.anyName := by
    rw [Workload.anyName, metadata_prepare]
    split <;> rfl
  apply plain.of_identity same_namespace same_name
  intro c member
  rw [containers_prepare] at member
  obtain ⟨original, original_member, rfl⟩ := List.mem_map.1 member
  rw [Container.name_decorate]
  exact plain.containers original original_member

/-- An injection brings in no name with a comma. -/
theorem plainNames_inject (plain : w.PlainNames) : (config.inject i w).PlainNames := by
  obtain ⟨same_namespace, -, same_name⟩ := identity_inject config i w
  apply plain.of_identity same_namespace same_name
  intro c member
  rw [containers_inject] at member
  rcases mem_placeAgent _ _ _ member with placed_here | earlier
  · have no_comma : ',' ∉ agentName.toList := by decide
    rw [placed_here]
    exact no_comma
  · exact (plainNames_prepare config i w plain).containers c earlier

/-- The tags of the agent are read from what preparing leaves alone. -/
theorem defaultTags_prepare :
    Agent.defaultTags (config.prepare i w) = Agent.defaultTags w := by
  apply Agent.defaultTags_congr
  · rw [kind_prepare]
  · rw [Workload.anyName, metadata_prepare, Workload.anyName]
    split <;> rfl
  · rw [Workload.namespaceOrDefault, metadata_prepare, Workload.namespaceOrDefault]
    split <;> rfl
  · rw [containers_prepare, List.find?_map, Option.map_map]
    simp only [Function.comp_def, Container.isAgent_decorate, Container.name_decorate]

/-- The tags of the agent are read from what an injection leaves alone. -/
theorem defaultTags_inject :
    Agent.defaultTags (config.inject i w) = Agent.defaultTags (config.prepare i w) := by
  have metadata := (metadata_inject config i w).trans
    (congrArg (·.setLabel boundLabel i.marker) (metadata_prepare config i w).symm)
  apply Agent.defaultTags_congr
  · rw [kind_inject, kind_prepare]
  · rw [Workload.anyName, metadata]
    rfl
  · rw [Workload.namespaceOrDefault, metadata]
    rfl
  · rw [containers_inject, ← List.head?_filter, ← List.head?_filter,
      filter_placeAgent _ _ (isAgent_placed config i w)]

/-- Every injection leaves the whole binding. -/
theorem carries_inject (plain : w.PlainNames) : (config.inject i w).Carries config i := by
  refine ⟨boundTo?_inject config i w, ?_, ?_, ?_, ?_⟩
  · refine ⟨_, templateMetadata?_inject config i w, ?_⟩
    split
    next => exact congrArg (·.setLabel boundLabel i.marker) (ObjectMeta.fillAnnotations_again _ _)
    next => exact ObjectMeta.fillAnnotations_again _ _
  · intro c member
    rw [serviceName?_inject]
    rw [containers_inject, containers_prepare] at member
    rcases mem_placeAgent _ _ _ member with placed_here | earlier
    · rw [placed_here]
      exact Container.decorate_of_isAgent _ _ _ (isAgent_placed config i w)
    · obtain ⟨original, -, rfl⟩ := List.mem_map.1 earlier
      exact Container.decorate_again _ _ original
  · -- The placed sidecar was built for the prepared workload, which has the same default tags.
    refine ⟨_, agent?_inject config i w, ?_⟩
    have plain_tags := Agent.plain_defaultTags _ (plainNames_prepare config i w plain)
    exact sidecar_again config i _ _ _ (defaultTags_inject config i w) plain_tags
  · exact ⟨_, podSpec?_inject config i w, holdsNamed_joinNamed _ _ _, holdsNamed_joinNamed _ _ _⟩

end InjectorConfig

/-- A cleaning keeps names as they are, and takes containers away. -/
theorem Workload.plainNames_clean (instanceName : String) (w : Workload) (plain : w.PlainNames) :
    (w.clean instanceName).PlainNames := by
  obtain ⟨same_namespace, -, same_name⟩ := identity_clean instanceName w
  apply plain.of_identity same_namespace same_name
  intro c member
  rw [containers_clean] at member
  exact plain.containers c (List.mem_filter.1 member).1

end TracingSidecar
