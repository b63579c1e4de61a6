import Mathlib.Data.List.Nodup
import TracingSidecar.Proofs.Injection.Applications
import TracingSidecar.Proofs.Injection.Report
import TracingSidecar.Proofs.Injection.TrustBundles

/-!
# Well-formed pods

The API server refuses pods in which a name is given twice, or in which a container mounts a volume
that is not there.  No run of evaluations makes a well-formed pod template into one of these: names
stay distinct (`wellNamed_apply`), and what an injected agent mounts comes with it and stays as long
as the agent does (`mountsHeld_apply`), also where one binding takes the place of another.
-/

namespace TracingSidecar

/-! ### Names -/

/-- No name is used twice among the containers, the variables of a container, the volumes and the
pull secrets of a workload's pods. -/
structure Workload.WellNamed (w : Workload) : Prop where
  containers : NamesDiffer (·.name) w.containers
  env : ∀ c ∈ w.containers, NamesDiffer (·.name) (c.env.getD [])
  volumes : NamesDiffer (·.name) w.volumes
  pullSecrets : NamesDiffer (·.name) w.pullSecrets

/-- The agent takes the place of the only container of its name, or its name is new. -/
theorem namesDiffer_placeAgent (sidecar : Container) (containers : List Container)
    (agent : sidecar.isAgent = true) (differ : NamesDiffer (·.name) containers) :
    NamesDiffer (·.name) (placeAgent sidecar containers) := by
  have named : sidecar.name = agentName := by simpa [Container.isAgent] using agent
  induction containers with
  | nil => exact List.pairwise_singleton _ _
  | cons first rest ih =>
    obtain ⟨apart, rest_differ⟩ := List.pairwise_cons.1 differ
    unfold placeAgent
    split
    next first_agent =>
      have same : first.name = sidecar.name := by simpa [Container.isAgent, named] using first_agent
      refine List.pairwise_cons.2 ⟨?_, rest_differ⟩
      intro c member equal
      exact apart c member (same.trans equal)
    next other =>
      refine List.pairwise_cons.2 ⟨?_, ih rest_differ⟩
      intro c member
      rcases mem_placeAgent _ _ _ member with rfl | earlier
      · simpa [Container.isAgent, named] using other
      · exact apart c earlier

/-- Variables that were added have names of their own. -/
theorem AddsVariables.namesDiffer (original later : List EnvVar)
    (adds : AddsVariables original later) (differ : NamesDiffer (·.name) original) :
    NamesDiffer (·.name) later := by
  obtain ⟨added, rfl, added_differ, appended⟩ := adds
  refine List.pairwise_append.2 ⟨differ, added_differ, ?_⟩
  intro v member last last_member same
  have absent := List.any_eq_false.1 (appended last last_member).2 v member
  simp [same] at absent

theorem Container.namesDiffer_decorate (serviceName : Option String) (propagation : String)
    (c : Container) (differ : NamesDiffer (·.name) (c.env.getD [])) :
    NamesDiffer (·.name) ((c.decorate serviceName propagation).env.getD []) := by
  have kept := Kept.decorate c c serviceName propagation (Kept.refl c)
  exact kept.adds.namesDiffer _ _ differ

namespace InjectorConfig

variable (config : InjectorConfig) (i : TracingInstance) (w : Workload)

theorem namesDiffer_containers_inject (differ : NamesDiffer (·.name) w.containers) :
    NamesDiffer (·.name) (config.inject i w).containers := by
  rw [containers_inject, containers_prepare]
  apply namesDiffer_placeAgent _ _ (isAgent_placed config i w)
  simpa [NamesDiffer, List.pairwise_map] using differ

theorem namesDiffer_env_placed :
    NamesDiffer (·.name) ((config.placed i w).env.getD []) := by
  have names : ((config.placed i w).env.getD []).map (·.name) =
      [Agent.podNameVariable, Agent.hostIpVariable] := rfl
  apply List.pairwise_map.1
  rw [names]
  decide

theorem namesDiffer_env_inject
    (differ : ∀ c ∈ w.containers, NamesDiffer (·.name) (c.env.getD [])) :
    ∀ c ∈ (config.inject i w).containers, NamesDiffer (·.name) (c.env.getD []) := by
  intro c member
  rw [containers_inject, containers_prepare] at member
  rcases mem_placeAgent _ _ _ member with rfl | earlier
  · exact config.namesDiffer_env_placed i w
  · obtain ⟨original, there, rfl⟩ := List.mem_map.1 earlier
    exact original.namesDiffer_decorate _ _ (differ original there)

end InjectorConfig

/-- An evaluation uses no name twice that was not used twice before. -/
theorem Occasion.wellNamed_apply (o : Occasion) (w : Workload) (named : w.WellNamed) :
    (o.apply w).WellNamed := by
  have containers : NamesDiffer (·.name) (o.apply w).containers ∧
      ∀ c ∈ (o.apply w).containers, NamesDiffer (·.name) (c.env.getD []) := by
    refine o.cases w (motive := fun _ later => NamesDiffer (·.name) later.containers ∧
      ∀ c ∈ later.containers, NamesDiffer (·.name) (c.env.getD [])) ?_ ?_ ?_
    · exact ⟨named.containers, named.env⟩
    · intro i _ _
      exact ⟨o.config.namesDiffer_containers_inject i w named.containers,
        o.config.namesDiffer_env_inject i w named.env⟩
    · intro previous _
      rw [Workload.containers_clean]
      refine ⟨named.containers.filter _, ?_⟩
      intro c member
      exact named.env c (List.mem_filter.1 member).1
  exact ⟨containers.1, containers.2, o.namesDiffer_volumes_apply w named.volumes,
    o.namesDiffer_pullSecrets_apply w named.pullSecrets⟩

/-! ### Mounts -/

/-- Every volume that the agent of an instance mounts is one that the agent's own settings bring
in. -/
def TracingInstance.MountsOwn (i : TracingInstance) : Prop :=
  ∀ mount ∈ i.spec.agent.settings.volumeMounts,
    ∃ v ∈ i.spec.agent.settings.volumes, v.name = mount.name

/-- Every volume that an agent mounts is there. -/
def Workload.MountsHeld (w : Workload) : Prop :=
  ∀ c ∈ w.containers, c.isAgent = true → ∀ mount ∈ c.volumeMounts.getD [], w.HasVolume mount.name

namespace InjectorConfig

variable (config : InjectorConfig) (i : TracingInstance) (w : Workload)

theorem volumeMounts_placed :
    (config.placed i w).volumeMounts.getD [] = config.sidecarMounts i := by
  have mounts : (config.placed i w).volumeMounts =
      if (config.sidecarMounts i).isEmpty then none else some (config.sidecarMounts i) := rfl
  rw [mounts]
  split
  next empty => exact (List.isEmpty_iff.1 empty).symm
  next => rfl

/-- Trust bundles are mounted where they are brought in. -/
theorem caMounts_covered (mount : VolumeMount) (member : mount ∈ caMounts i) :
    ∃ v ∈ caVolumes i, v.name = mount.name := by
  rcases List.mem_pair.1 member with rfl | rfl
  · exact ⟨_, List.mem_cons_self, rfl⟩
  · exact ⟨_, List.mem_cons_of_mem _ List.mem_cons_self, rfl⟩

/-- Whatever the sidecar mounts comes with it: volumes and mounts go through two lists, but neither
loses a name. -/
theorem sidecarMounts_covered (own : i.MountsOwn) (mount : VolumeMount)
    (member : mount ∈ config.sidecarMounts i) :
    ∃ v ∈ config.sidecarVolumes i, v.name = mount.name := by
  have declared : ∃ v ∈ i.spec.agent.settings.volumes ++
      (if config.addsCaVolumes then caVolumes i else []), v.name = mount.name := by
    rcases List.mem_append.1 (mem_of_mem_distinctBy _ _ mount member) with settings | trust
    · obtain ⟨v, there, named⟩ := own mount settings
      exact ⟨v, List.mem_append_left _ there, named⟩
    · split at trust
      next adds =>
        obtain ⟨v, there, named⟩ := caMounts_covered i mount trust
        rw [if_pos adds]
        exact ⟨v, List.mem_append_right _ there, named⟩
      next => cases trust
  obtain ⟨v, there, named⟩ := declared
  obtain ⟨kept, found, same⟩ := namesCovered_distinctBy (·.name) _ v there
  exact ⟨kept, found, same.trans named⟩

/-- Where container names differ, the agent that is placed is the only one. -/
theorem eq_placed_of_isAgent (differ : NamesDiffer (·.name) w.containers) (c : Container)
    (member : c ∈ (config.inject i w).containers) (agent : c.isAgent = true) :
    c = config.placed i w := by
  have distinct := config.namesDiffer_containers_inject i w differ
  have placed_member := List.mem_of_find?_eq_some (config.agent?_inject i w)
  have placed_agent := config.isAgent_placed i w
  have same : c.name = (config.placed i w).name := by
    simp only [Container.isAgent, decide_eq_true_eq] at agent placed_agent
    rw [agent, placed_agent]
  have unrepeated : ((config.inject i w).containers.map (·.name)).Nodup :=
    List.pairwise_map.2 distinct
  exact List.inj_on_of_nodup_map unrepeated member placed_member same

end InjectorConfig

namespace Occasion

variable (o : Occasion) (w : Workload)

theorem mem_of_binds? (i : TracingInstance) (binds : o.binds? w = some i) : i ∈ o.instances := by
  obtain ⟨-, selected, -⟩ := o.binds?_eq_some w i binds
  exact mem_of_select? w o.ns o.instances i selected

/-- The volumes that a bound agent mounts come with it. -/
theorem mountsHeld_of_binds? (i : TracingInstance) (differ : NamesDiffer (·.name) w.containers)
    (own : i.MountsOwn) (binds : o.binds? w = some i) : (o.apply w).MountsHeld := by
  intro c member agent mount mounted
  obtain ⟨-, -, injected⟩ := o.binds?_eq_some w i binds
  rw [injected] at member
  have placed := o.config.eq_placed_of_isAgent i w differ c member agent
  rw [placed, InjectorConfig.volumeMounts_placed] at mounted
  obtain ⟨v, brought, named⟩ := o.config.sidecarMounts_covered i own mount mounted
  have joined : v ∈ o.volumesBrought w := by
    rw [volumesBrought, binds]
    exact brought
  obtain ⟨other, found, same⟩ :=
    o.namesCovered_volumes_apply w v (List.mem_append_right _ joined)
  exact ⟨other, found, same.trans named⟩

/-- An evaluation that leaves the agent leaves its volumes too. -/
theorem mountsHeld_apply (differ : NamesDiffer (·.name) w.containers)
    (own : ∀ i ∈ o.instances, i.MountsOwn) (held : w.MountsHeld) : (o.apply w).MountsHeld := by
  cases binds : o.binds? w with
  | some i =>
    have listed := o.mem_of_binds? w i binds
    exact o.mountsHeld_of_binds? w i differ (own i listed) binds
  | none =>
    revert binds
    refine o.cases w (motive := fun bound later => bound = none → later.MountsHeld) ?_ ?_ ?_
    · exact fun _ => held
    · intro i _ _ unbound
      cases unbound
    · intro previous _ _ c member agent
      have none_left := List.any_eq_false.1 (w.hasAgent_clean previous) c member
      exact absurd agent none_left

end Occasion

/-! ### Runs -/

namespace Workload

/-- Some evaluation of the run put the container among the others, as the agent of the instance that
it bound. -/
def Written (w : Workload) (run : List Occasion) (c : Container) : Prop :=
  ∃ earlier o later i, run = earlier ++ o :: later ∧ o.binds? (w.after earlier) = some i ∧
    c = o.config.placed i (w.after earlier)

theorem wellNamed_after (w : Workload) (run : List Occasion) (named : w.WellNamed) :
    (w.after run).WellNamed :=
  after_induction run w named fun o _ later => o.wellNamed_apply later

/-- From the first agent that an evaluation of the run writes, all that an agent mounts is there. -/
theorem mountsHeld_after (w : Workload) (run : List Occasion) (named : w.WellNamed)
    (own : ∀ o ∈ run, ∀ i ∈ o.instances, i.MountsOwn) (c : Container) (written : w.Written run c) :
    (w.after run).MountsHeld := by
  obtain ⟨earlier, o, later, i, rfl, binds, -⟩ := written
  have before := w.wellNamed_after earlier named
  have first : (o.apply (w.after earlier)).MountsHeld := by
    have mounts_own := own o (List.mem_append_right _ List.mem_cons_self) i
      (o.mem_of_binds? _ i binds)
    exact o.mountsHeld_of_binds? _ i before.containers mounts_own binds
  have kept := after_induction (P := fun reached => reached.WellNamed ∧ reached.MountsHeld) later
    (o.apply (w.after earlier)) ⟨o.wellNamed_apply _ before, first⟩
  rw [after_append, after_cons]
  refine (kept ?_).2
  intro next member reached ⟨reached_named, held⟩
  have belongs := List.mem_append_right earlier (List.mem_cons_of_mem o member)
  exact ⟨next.wellNamed_apply reached reached_named,
    next.mountsHeld_apply reached reached_named.containers (own next belongs) held⟩

end Workload

/-- Pods stay well-formed over every run of evaluations, whatever each of them is made with: no name
comes to be used twice; and if the agents of all instances mount only volumes of their own settings,
then all that an agent mounts which one of the evaluations wrote is there. -/
theorem wellFormed_after (w : Workload) (run : List Occasion) (named : w.WellNamed) :
    (w.after run).WellNamed ∧
      ((∀ o ∈ run, ∀ i ∈ o.instances, i.MountsOwn) →
        ∀ c ∈ (w.after run).containers, w.Written run c →
          ∀ mount ∈ c.volumeMounts.getD [], (w.after run).HasVolume mount.name) := by
  refine ⟨w.wellNamed_after run named, ?_⟩
  intro own c member written
  have held := w.mountsHeld_after run named own c written
  have agent : c.isAgent = true := by
    obtain ⟨earlier, o, later, i, -, -, placed⟩ := written
    rw [placed]
    exact o.config.isAgent_placed i _
  exact held c member agent

/-- An instance whose agent mounts a volume of its own settings. -/
def Sample.mounting (name : String) : TracingInstance :=
  { Sample.instanceAt "tracing" name with
    spec := { agent := { settings :=
      { volumes := [Volume.ofConfigMap "agent-config" "agent.yaml" "agent.yaml"]
        volumeMounts := [.readOnlyAt "agent-config" "/etc/agent"] } } } }

/-- Rebound from one instance to another, the agent of the sample mounts the trust bundles of the
second, and they are there. -/
theorem wellFormed_after_rebinding :
    let w := Sample.deploymentWith []
    let first := Sample.binding { platform := .openShift } (Sample.mounting "prod")
    let second := Sample.binding { platform := .openShift } (Sample.mounting "staging")
    let agent := second.config.placed (Sample.mounting "staging") (w.after [first])
    w.WellNamed ∧ (∀ o ∈ [first, second], ∀ i ∈ o.instances, i.MountsOwn) ∧
      agent ∈ (w.after [first, second]).containers ∧ w.Written [first, second] agent ∧
      (agent.volumeMounts.getD []).map (·.name) =
        ["agent-config", "staging-trusted-ca", "staging-service-ca"] ∧
      (w.after [first, second]).WellNamed ∧
      ∀ mount ∈ agent.volumeMounts.getD [], (w.after [first, second]).HasVolume mount.name := by
  intro w first second agent
  have named : w.WellNamed := by
    refine ⟨List.pairwise_singleton _ _, ?_, List.Pairwise.nil, List.Pairwise.nil⟩
    intro c member
    rw [List.mem_singleton.1 member]
    exact List.Pairwise.nil
  have mounting (name : String) : (Sample.mounting name).MountsOwn := by
    intro mount mounted
    rw [List.mem_singleton.1 mounted]
    exact ⟨_, List.mem_cons_self, rfl⟩
  have own : ∀ o ∈ [first, second], ∀ i ∈ o.instances, i.MountsOwn := by
    intro o member i listed
    rcases List.mem_pair.1 member with rfl | rfl
    · rw [List.mem_singleton.1 listed]
      exact mounting "prod"
    · rw [List.mem_singleton.1 listed]
      exact mounting "staging"
  have binds : second.binds? (w.after [first]) = some (Sample.mounting "staging") := by decide
  have member : agent ∈ (w.after [first, second]).containers := by
    have injected := (second.binds?_eq_some _ _ binds).2.2
    have last : w.after [first, second] = second.apply (w.after [first]) := rfl
    rw [last, injected]
    exact List.mem_of_find?_eq_some (second.config.agent?_inject _ _)
  have written : w.Written [first, second] agent :=
    ⟨[first], second, [], Sample.mounting "staging", rfl, binds, rfl⟩
  have mounted : (agent.volumeMounts.getD []).map (·.name) =
      ["agent-config", "staging-trusted-ca", "staging-service-ca"] := by
    rw [InjectorConfig.volumeMounts_placed]
    decide
  obtain ⟨still_named, held⟩ := wellFormed_after w [first, second] named
  exact ⟨named, own, member, written, mounted, still_named, held own agent member written⟩

end TracingSidecar
