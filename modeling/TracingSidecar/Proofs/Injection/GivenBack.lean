import TracingSidecar.Proofs.Injection.FixedPoint

/-!
# Workloads as the cluster gives them back

Between two passes the cluster fills in what a workload leaves open, and other controllers change
what is theirs.  Injection does not look at most of this, and hands the rest on to the sidecar that
it builds: of an application container it reads the name and the variables, of a volume the name, of
the sidecar the tags and the fields that the cluster fills in.  So a workload that comes back like
that still carries the whole binding (`Workload.Carries.of_givenBack`), and injecting the same
instance again changes nothing (`inject_givenBack`).
-/

namespace TracingSidecar

/-! ### What may come back changed -/

namespace Container

/-- What injection reads of an application container. -/
def reading (c : Container) : String × Option (List EnvVar) := (c.name, c.env)

/-- The container with what the cluster fills in, or another controller sets. -/
def withDefaults (policy path messagePolicy : Option String) (c : Container) : Container :=
  { c with
    imagePullPolicy := policy
    terminationMessagePath := path
    terminationMessagePolicy := messagePolicy }

end Container

/-- Containers that come back: the application containers with their names and variables, in their
order, and the agent somewhere among them, with what the cluster fills in. -/
def ContainersGivenBack (containers later : List Container) : Prop :=
  ∃ (agent : Container) (policy path messagePolicy : Option String)
    (before after : List Container),
    containers.find? Container.isAgent = some agent ∧
    later = before ++ agent.withDefaults policy path messagePolicy :: after ∧
    (before ++ after).map (·.reading) = (containers.filter (!·.isAgent)).map (·.reading)

/-- Volumes that come back: those of the same names, in their order. -/
def VolumesGivenBack (volumes later : Option (List Volume)) : Prop :=
  later.map (·.map (·.name)) = volumes.map (·.map (·.name))

/-- A pod specification as it may come back: nothing has changed in it but containers and
volumes. -/
structure PodSpec.GivenBack (spec later : PodSpec) : Prop where
  containers : ContainersGivenBack spec.containers later.containers
  volumes : VolumesGivenBack spec.volumes later.volumes
  others : later = { spec with containers := later.containers, volumes := later.volumes }

/-- A workload as it may come back: nothing has changed but its pod specification. -/
def Workload.GivenBack (w later : Workload) : Prop :=
  ∃ spec change, w.podSpec? = some spec ∧ spec.GivenBack (change spec) ∧
    later = w.modifyPodSpec change

/-! ### What is read of it -/

/-- Whether a list holds items depends on the names in it. -/
theorem HoldsNamed.of_names {α : Type} {name : α → String} {items : List α}
    {held later : Option (List α)} (holds : HoldsNamed name items held)
    (same : later.map (·.map name) = held.map (·.map name)) : HoldsNamed name items later := by
  rcases holds with empty | ⟨kept, rfl, differ, covered⟩
  · exact Or.inl empty
  · obtain ⟨found, rfl, same_names⟩ := Option.map_eq_some_iff.1 same
    have names : found.map name = kept.map name := same_names
    refine Or.inr ⟨found, rfl, ?_, ?_⟩
    · have distinct := List.pairwise_map.2 differ
      rw [← names] at distinct
      exact List.pairwise_map.1 distinct
    · intro item member
      obtain ⟨other, other_kept, named⟩ := covered item member
      have listed : name item ∈ found.map name := by
        rw [names, ← named]
        exact List.mem_map_of_mem other_kept
      exact List.mem_map.1 listed

namespace Container

theorem isAgent_of_reading (c other : Container) (same : c.reading = other.reading) :
    c.isAgent = other.isAgent := by
  have named : c.name = other.name := congrArg Prod.fst same
  rw [isAgent, isAgent, named]

@[simp] theorem isAgent_withDefaults (policy path messagePolicy : Option String) (c : Container) :
    (c.withDefaults policy path messagePolicy).isAgent = c.isAgent := rfl

/-- Containers that are read like application containers are application containers. -/
theorem isAgent_of_applications (containers others : List Container)
    (same : others.map (·.reading) = (containers.filter (!·.isAgent)).map (·.reading))
    (c : Container) (member : c ∈ others) : c.isAgent = false := by
  have listed : c.reading ∈ others.map (·.reading) := List.mem_map_of_mem member
  rw [same] at listed
  obtain ⟨original, kept, reading⟩ := List.mem_map.1 listed
  rw [← isAgent_of_reading original c reading]
  simpa using (List.mem_filter.1 kept).2

/-- Whether a container is decorated can be read off its name and variables. -/
theorem decorate_of_reading (serviceName : Option String) (propagation : String)
    (c other : Container) (same : c.reading = other.reading)
    (decorated : other.decorate serviceName propagation = other) :
    c.decorate serviceName propagation = c := by
  have same_env : c.env = other.env := congrArg Prod.snd same
  rw [decorate_eq, isAgent_of_reading c other same]
  rw [decorate_eq] at decorated
  split
  · rfl
  next application =>
    rw [if_neg application] at decorated
    have full : some (decorateEnv serviceName propagation (other.env.getD [])) = other.env :=
      congrArg Container.env decorated
    rw [same_env, full, ← same_env]

end Container

section Containers

variable {containers later : List Container}

/-- The agent that comes back is the one that was there, with what was filled in. -/
theorem ContainersGivenBack.find? (given_back : ContainersGivenBack containers later) :
    ∃ agent policy path messagePolicy, containers.find? Container.isAgent = some agent ∧
      later.find? Container.isAgent = some (agent.withDefaults policy path messagePolicy) := by
  obtain ⟨agent, policy, path, messagePolicy, before, after, found, rfl, same⟩ := given_back
  have is_agent : (agent.withDefaults policy path messagePolicy).isAgent = true := by
    simpa using List.find?_some found
  have applications := Container.isAgent_of_applications containers _ same
  have none_before : before.find? Container.isAgent = none := by
    apply List.find?_eq_none.2
    intro c member
    simp [applications c (List.mem_append_left after member)]
  refine ⟨agent, policy, path, messagePolicy, found, ?_⟩
  rw [List.find?_append, none_before, Option.none_or, List.find?_cons_of_pos is_agent]

/-- The application containers come back in their order. -/
theorem ContainersGivenBack.reading (given_back : ContainersGivenBack containers later) :
    (later.filter (!·.isAgent)).map (·.reading) =
      (containers.filter (!·.isAgent)).map (·.reading) := by
  obtain ⟨agent, policy, path, messagePolicy, before, after, found, rfl, same⟩ := given_back
  have is_agent : (agent.withDefaults policy path messagePolicy).isAgent = true := by
    simpa using List.find?_some found
  have applications : (before ++ after).filter (!·.isAgent) = before ++ after := by
    apply List.filter_eq_self.2
    intro c member
    simp [Container.isAgent_of_applications containers _ same c member]
  rw [List.filter_append, List.filter_cons_of_neg (by simp [is_agent]), ← List.filter_append,
    applications, same]

/-- Application containers that were decorated come back so. -/
theorem ContainersGivenBack.decorated (given_back : ContainersGivenBack containers later)
    (serviceName : Option String) (propagation : String)
    (decorated : ∀ c ∈ containers, c.decorate serviceName propagation = c) :
    ∀ c ∈ later, c.decorate serviceName propagation = c := by
  intro c member
  by_cases agent : c.isAgent = true
  · exact Container.decorate_of_isAgent _ _ c agent
  · have kept : c.reading ∈ (later.filter (!·.isAgent)).map (·.reading) :=
      List.mem_map_of_mem (List.mem_filter.2 ⟨member, by simpa using agent⟩)
    rw [given_back.reading] at kept
    obtain ⟨original, original_kept, reading⟩ := List.mem_map.1 kept
    exact Container.decorate_of_reading _ _ c original reading.symm
      (decorated original (List.mem_filter.1 original_kept).1)

end Containers

namespace Workload.GivenBack

variable {w later : Workload}

theorem kind (given_back : w.GivenBack later) : later.kind = w.kind := by
  obtain ⟨spec, change, -, -, rfl⟩ := given_back
  exact w.kind_modifyPodSpec change

theorem metadata (given_back : w.GivenBack later) : later.metadata = w.metadata := by
  obtain ⟨spec, change, -, -, rfl⟩ := given_back
  exact w.metadata_modifyPodSpec change

theorem templateMetadata? (given_back : w.GivenBack later) :
    later.templateMetadata? = w.templateMetadata? := by
  obtain ⟨spec, change, -, -, rfl⟩ := given_back
  exact w.templateMetadata?_modifyPodSpec change

theorem containers (given_back : w.GivenBack later) :
    ContainersGivenBack w.containers later.containers := by
  obtain ⟨spec, change, specified, returned, rfl⟩ := given_back
  have later_specified : (w.modifyPodSpec change).podSpec? = some (change spec) := by
    simp [specified]
  rw [containers_eq w spec specified, containers_eq _ _ later_specified]
  exact returned.containers

/-- The default tags are read from what comes back as it was. -/
theorem defaultTags (given_back : w.GivenBack later) :
    Agent.defaultTags later = Agent.defaultTags w := by
  apply Agent.defaultTags_congr
  · exact given_back.kind
  · rw [anyName, anyName, given_back.metadata]
  · rw [namespaceOrDefault, namespaceOrDefault, given_back.metadata]
  · have first := congrArg (fun readings => readings.head?.map Prod.fst)
      given_back.containers.reading
    simpa [Container.reading, ← List.head?_filter, Function.comp_def] using first

end Workload.GivenBack

/-! ### Injecting again -/

/-- Of the workload, a sidecar depends on the default tags only. -/
theorem InjectorConfig.sidecar_congr (config : InjectorConfig) (i : TracingInstance)
    (w later : Workload) (existing : Option Container)
    (same : Agent.defaultTags later = Agent.defaultTags w) :
    config.sidecar i later existing = config.sidecar i w existing := by
  simp only [sidecar, Agent.addTags, same]

/-- What the cluster filled into a sidecar is handed on to the one that replaces it. -/
theorem InjectorConfig.sidecar_withDefaults (config : InjectorConfig) (i : TracingInstance)
    (w : Workload) (agent : Container) (policy path messagePolicy : Option String) :
    config.sidecar i w (some (agent.withDefaults policy path messagePolicy)) =
      (config.sidecar i w (some agent)).withDefaults policy path messagePolicy := rfl

section Workloads

variable {config : InjectorConfig} {i : TracingInstance} {w later : Workload}

/-- The binding comes back with the workload. -/
theorem Workload.Carries.of_givenBack (carries : w.Carries config i)
    (given_back : w.GivenBack later) : later.Carries config i := by
  obtain ⟨bound, annotated, decorated, ⟨s, found, fixed⟩, provided⟩ := carries
  obtain ⟨spec, specified, secrets, held⟩ := provided
  refine ⟨?_, ?_, ?_, ?_, ?_⟩
  · rw [boundTo?, given_back.metadata]
    exact bound
  · rw [given_back.templateMetadata?]
    exact annotated
  · rw [serviceName?_congr w later given_back.metadata given_back.templateMetadata?]
    exact given_back.containers.decorated _ _ decorated
  · obtain ⟨agent, policy, path, messagePolicy, agent_found, later_found⟩ :=
      given_back.containers.find?
    rw [agent?, agent_found] at found
    cases found
    refine ⟨_, later_found, ?_⟩
    rw [config.sidecar_congr i w later _ given_back.defaultTags, config.sidecar_withDefaults, fixed]
  · obtain ⟨same_spec, change, same_specified, returned, rfl⟩ := given_back
    cases specified.symm.trans same_specified
    refine ⟨change spec, by simp [specified], ?_, held.of_names returned.volumes⟩
    rw [returned.others]
    exact secrets

end Workloads

/-- Injecting the same instance again changes nothing about a workload that came back with what the
cluster fills in: whatever policies the sidecar has now and wherever it stands, whatever is in the
volumes, and whatever application containers have apart from their names and variables. -/
theorem inject_givenBack (config : InjectorConfig) (i : TracingInstance) (w later : Workload)
    (plain : w.PlainNames) (given_back : (config.inject i w).GivenBack later) :
    config.inject i later = later :=
  config.inject_eq_self i later ((config.carries_inject i w plain).of_givenBack given_back)

/-- A pod specification as it may come back: the agent stands first and has policies, applications
have a working directory, and volumes a mode. -/
def Sample.returned (agent : Container) (spec : PodSpec) : PodSpec :=
  let setMode (v : Volume) : Volume :=
    { v with configMap := v.configMap.map fun source => { source with defaultMode := some 420 } }
  { spec with
    containers := agent.withDefaults (some "IfNotPresent") (some "/dev/termination-log") none ::
      (spec.containers.filter (!·.isAgent)).map fun c => { c with workingDir := some "/srv" }
    volumes := spec.volumes.map (·.map setMode) }

theorem Sample.givenBack_returned (w : Workload) (agent : Container)
    (found : w.agent? = some agent) : w.GivenBack (w.modifyPodSpec (returned agent)) := by
  cases specified : w.podSpec? with
  | none =>
    rw [Workload.agent?, Workload.containers, specified] at found
    cases found
  | some spec =>
    rw [Workload.agent?, Workload.containers_eq w spec specified] at found
    refine ⟨spec, returned agent, specified, ⟨?_, ?_, rfl⟩, rfl⟩
    · refine ⟨agent, _, _, _, [], _, found, rfl, ?_⟩
      simp [Container.reading, Function.comp_def]
    · change (spec.volumes.map _).map _ = spec.volumes.map _
      simp [Function.comp_def]

/-- Injecting the instance again leaves the sample deployment as it came back, with the sidecar in
another place. -/
theorem inject_givenBack_shop :
    let config : InjectorConfig := { platform := .openShift }
    let prod := Sample.instanceAt "tracing" "prod"
    let injected := config.inject prod Sample.shop
    let later := injected.modifyPodSpec (Sample.returned (config.placed prod Sample.shop))
    injected.containers.map (·.name) = ["web", agentName] ∧
      later.containers.map (·.name) = [agentName, "web"] ∧
      injected.GivenBack later ∧ config.inject prod later = later := by
  intro config prod injected later
  have given_back : injected.GivenBack later :=
    Sample.givenBack_returned injected _ (config.agent?_inject prod Sample.shop)
  exact ⟨by decide +kernel, by decide +kernel, given_back,
    inject_givenBack config prod Sample.shop later Sample.plainNames_shop given_back⟩

end TracingSidecar
