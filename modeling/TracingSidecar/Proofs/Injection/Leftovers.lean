import TracingSidecar.Proofs.Injection.Pods

/-!
# What an earlier evaluation leaves behind

An instance is injected into a workload that another evaluation may have bound before.  The marker
and the agent are then what they would have been without it, up to the tags that an agent keeps on
purpose.  Volumes and pull secrets are not: the earlier ones stay, and of two with one name it is
the earlier one that counts.  The later evaluation agrees with one of an untouched workload exactly
if what is left of the earlier one is the beginning of what the later one adds
(`later_evaluation_agrees_iff`).
-/

namespace TracingSidecar

/-! ### The agent -/

/-- Whether an argument is none that sets tags. -/
def Agent.setsNoTags (argument : String) : Bool := (Text.stripPrefix? tagsFlag argument).isNone

/-- A container without its tag arguments. -/
def Container.withoutTags (c : Container) : Container :=
  { c with args := c.args.map (·.filter Agent.setsNoTags) }

/-- What a new sidecar takes over from an earlier agent container, besides its tags. -/
def Container.handedOn (existing : Option Container) :
    Option String × Option String × Option String :=
  (existing.bind (·.imagePullPolicy), existing.bind (·.terminationMessagePath),
    existing.bind (·.terminationMessagePolicy))

theorem Agent.filter_addTags (w : Workload) (existing : Option Container) (args : List String) :
    (addTags w existing args).filter setsNoTags = args.filter setsNoTags := by
  unfold addTags
  split
  next => rfl
  next =>
    have tagged : setsNoTags ((Tags.ofArgs ((existing.bind (·.args)).getD [])).merge
        (defaultTags w)).toArgument = false := by
      rw [setsNoTags, Tags.toArgument, Text.stripPrefix?_append]
      rfl
    simp [List.filter_append, tagged]

namespace InjectorConfig

variable (config : InjectorConfig) (i : TracingInstance) (w : Workload)

/-- Apart from its tags, the sidecar depends on the instance and on what is handed on to it. -/
theorem withoutTags_sidecar (later : Workload) (existing other : Option Container)
    (handed : Container.handedOn existing = Container.handedOn other) :
    (config.sidecar i w existing).withoutTags = (config.sidecar i later other).withoutTags := by
  have arguments := Text.filter_mergeSort_congr Agent.setsNoTags
    (Agent.addTags w existing (config.connectionArgs i))
    (Agent.addTags later other (config.connectionArgs i))
    (by rw [Agent.filter_addTags, Agent.filter_addTags])
  simp only [Container.handedOn, Prod.mk.injEq] at handed
  obtain ⟨pull, path, policy⟩ := handed
  simp only [Container.withoutTags, sidecar, Option.map_some, arguments, pull, path, policy]

/-- Apart from its tags, the agent that is put into two workloads is the same, if the same is handed
on to it. -/
theorem withoutTags_placed (later : Workload)
    (handed : Container.handedOn later.agent? = Container.handedOn w.agent?) :
    (config.placed i later).withoutTags = (config.placed i w).withoutTags := by
  unfold placed
  rw [agent?_prepare, agent?_prepare]
  exact config.withoutTags_sidecar i _ _ _ _ handed

/-- An injection hands on what was handed on to it. -/
theorem handedOn_inject :
    Container.handedOn (config.inject i w).agent? = Container.handedOn w.agent? := by
  rw [agent?_inject, placed, agent?_prepare]
  rfl

end InjectorConfig

/-! ### Evaluating again what was bound -/

namespace Occasion

variable (o : Occasion) (w : Workload)

/-- A workload that an evaluation may bind: it is an application that nothing else controls, and it
asks for a sidecar. -/
structure Open : Prop where
  application : w.isBackendComponent = false
  independent : w.isControlled = false
  opted : w.isOptedIn o.ns = true

theorem open_of_binds? (i : TracingInstance) (binds : o.binds? w = some i) : o.Open w := by
  obtain ⟨opted, -, -⟩ := o.binds?_eq_some w i binds
  refine ⟨?_, ?_, opted⟩
  · by_contra component
    rw [Bool.not_eq_false] at component
    simp [binds?, evaluation, evaluate, component] at binds
  · by_contra controlled
    rw [Bool.not_eq_false] at controlled
    simp [binds?, evaluation, evaluate, controlled] at binds

/-- A workload that was bound and has an agent gets the sidecar of the instance selected for it. -/
theorem apply_of_bound (i : TracingInstance) (wants : o.Open w) (marker : String)
    (bound : w.boundTo? = some marker) (agent : w.hasAgent = true)
    (selected : select? w o.ns o.instances = some i) : o.apply w = o.config.inject i w := by
  have satisfied : w.needsSidecar o.ns = false := by
    simp [Workload.needsSidecar, agent]
  unfold apply evaluate
  simp only [wants.application, wants.independent, satisfied, bound, agent, wants.opted, selected]
  by_cases same : o.config.inject i w = w <;> simp [same]

/-- The instance that an evaluation would bind a workload to, it binds it to as well where another
was injected before. -/
theorem apply_inject (config : InjectorConfig) (i previous : TracingInstance)
    (binds : o.binds? w = some i) (leaves : w.kind = .pod → config.LeavesOptIn) :
    o.apply (config.inject previous w) = o.config.inject i (config.inject previous w) := by
  obtain ⟨opted, selected, -⟩ := o.binds?_eq_some w i binds
  obtain ⟨same_component, same_control⟩ := config.responsible_inject previous w
  have before := o.open_of_binds? w i binds
  have asks := config.optIn?_inject previous w leaves
  have wants : o.Open (config.inject previous w) := by
    refine ⟨?_, ?_, ?_⟩
    · rw [same_component]
      exact before.application
    · rw [same_control]
      exact before.independent
    · rw [isOptedIn_congr w _ o.ns asks]
      exact opted
  have still_selected := select?_congr w (config.inject previous w) o.ns o.instances asks
    (config.identity_inject previous w).1
  rw [selected] at still_selected
  have agent := Workload.hasAgent_of_agent? _ _ (config.agent?_inject previous w)
  exact o.apply_of_bound _ i wants _ (config.boundTo?_inject previous w) agent still_selected

end Occasion

/-! ### Two evaluations against one -/

namespace Occasion

variable (o : Occasion) (w : Workload)

/-- The volumes that the evaluation of an unbound workload adds to it. -/
def volumesAdded : List Volume := newNamed (·.name) (o.volumesBrought w) w.volumes

/-- The pull secrets that the evaluation of a workload adds to it. -/
def secretsAdded : List LocalReference := newNamed (·.name) (o.secretsBrought w) w.pullSecrets

/-- An unbound workload that no instance is bound to stays as it is. -/
theorem apply_eq_self (unbound : w.boundTo? = none) (idle : o.binds? w = none) :
    o.apply w = w := by
  revert idle
  refine o.cases w (motive := fun bound later => bound = none → later = w) ?_ ?_ ?_
  · exact fun _ => rfl
  · intro i opted selected none_bound
    cases none_bound
  · intro previous bound
    rw [unbound] at bound
    cases bound

theorem volumes_apply_of_unbound (unbound : w.boundTo? = none)
    (differ : NamesDiffer (·.name) w.volumes) :
    (o.apply w).volumes = w.volumes ++ o.volumesAdded w := by
  have nothing_ends : o.ends? w = none := by
    rw [ends?, unbound, Option.filter_none]
  rw [o.volumes_apply w differ, nothing_ends]
  rfl

end Occasion

section TwoEvaluations

variable (first second : Occasion) (w : Workload) (i : TracingInstance)

/-- Whatever the first evaluation did, the second injects the instance that it would have injected
without it. -/
theorem apply_apply_of_unbound (unbound : w.boundTo? = none) (binds : second.binds? w = some i)
    (leaves : w.kind = .pod → first.config.LeavesOptIn) :
    second.apply (first.apply w) = second.config.inject i (first.apply w) := by
  cases bound : first.binds? w with
  | none =>
    rw [first.apply_eq_self w unbound bound]
    exact (second.binds?_eq_some w i binds).2.2
  | some previous =>
    rw [(first.binds?_eq_some w previous bound).2.2]
    exact second.apply_inject w first.config i previous binds leaves

theorem handedOn_apply_of_unbound (unbound : w.boundTo? = none) :
    Container.handedOn (first.apply w).agent? = Container.handedOn w.agent? := by
  cases bound : first.binds? w with
  | none => rw [first.apply_eq_self w unbound bound]
  | some previous =>
    rw [(first.binds?_eq_some w previous bound).2.2]
    exact first.config.handedOn_inject previous w

/-- The volumes agree exactly if what is left of those that the first evaluation added is the
beginning of those that the second adds to an untouched workload. -/
theorem volumes_agree_iff (unbound : w.boundTo? = none) (binds : second.binds? w = some i)
    (leaves : w.kind = .pod → first.config.LeavesOptIn)
    (differ : NamesDiffer (·.name) w.volumes)
    (apart : ∀ v ∈ w.volumes, ∀ marker, second.ends? (first.apply w) = some marker →
      v.name ∉ Naming.caNames marker) :
    (second.apply (first.apply w)).volumes = (second.apply w).volumes ↔
      withoutCa (second.ends? (first.apply w)) (first.volumesAdded w) <+:
        second.volumesAdded w := by
  have again := apply_apply_of_unbound first second w i unbound binds leaves
  have ended : second.ends? (first.apply w) =
      (first.apply w).boundTo?.filter (· ≠ i.marker) := by
    rw [Occasion.ends?, again, InjectorConfig.boundTo?_inject]
    simp only [ne_eq, Option.some.injEq, eq_comm]
  have brought : second.config.sidecarVolumes i = second.volumesBrought w := by
    rw [Occasion.volumesBrought, binds]
    rfl
  have later_volumes := second.config.volumes_inject i (first.apply w)
    (first.namesDiffer_volumes_apply w differ)
  rw [← again, ← ended, first.volumes_apply_of_unbound w unbound differ, withoutCa_append,
    withoutCa_eq_self _ _ apart, brought] at later_volumes
  rw [later_volumes, second.volumes_apply_of_unbound w unbound differ, List.append_assoc,
    List.append_cancel_left_eq]
  exact append_newNamed_eq_iff _ _ _ _

/-- The pull secrets agree exactly if those that the first evaluation added are the beginning of
those that the second adds to an untouched workload. -/
theorem pullSecrets_agree_iff (unbound : w.boundTo? = none) (binds : second.binds? w = some i)
    (leaves : w.kind = .pod → first.config.LeavesOptIn)
    (differ : NamesDiffer (·.name) w.pullSecrets) :
    (second.apply (first.apply w)).pullSecrets = (second.apply w).pullSecrets ↔
      first.secretsAdded w <+: second.secretsAdded w := by
  have again := apply_apply_of_unbound first second w i unbound binds leaves
  have brought : i.spec.agent.settings.imagePullSecrets = second.secretsBrought w := by
    rw [Occasion.secretsBrought, binds]
    rfl
  have first_secrets := first.pullSecrets_apply w differ
  have later_secrets := second.config.pullSecrets_inject i (first.apply w)
    (first.namesDiffer_pullSecrets_apply w differ)
  rw [← again, first_secrets, brought] at later_secrets
  rw [later_secrets, second.pullSecrets_apply w differ, List.append_assoc,
    List.append_cancel_left_eq]
  exact append_newNamed_eq_iff _ _ _ _

/-- What an evaluation that injects an instance has in common with the same evaluation after another
one.  Marker and agent are the same whatever came before, up to the tags that the agent keeps.
Volumes and pull secrets are the same exactly if what is left of those that the first evaluation
added is the beginning of those that the second adds to an untouched workload. -/
theorem later_evaluation_agrees_iff (unbound : w.boundTo? = none)
    (binds : second.binds? w = some i) (leaves : w.kind = .pod → first.config.LeavesOptIn)
    (volumes_differ : NamesDiffer (·.name) w.volumes)
    (secrets_differ : NamesDiffer (·.name) w.pullSecrets)
    (apart : ∀ v ∈ w.volumes, ∀ marker, second.ends? (first.apply w) = some marker →
      v.name ∉ Naming.caNames marker) :
    let later := second.apply (first.apply w)
    let fresh := second.apply w
    later.boundTo? = fresh.boundTo? ∧
      later.agent?.map (·.withoutTags) = fresh.agent?.map (·.withoutTags) ∧
      (later.volumes = fresh.volumes ↔
        withoutCa (second.ends? (first.apply w)) (first.volumesAdded w) <+:
          second.volumesAdded w) ∧
      (later.pullSecrets = fresh.pullSecrets ↔ first.secretsAdded w <+: second.secretsAdded w) := by
  intro later fresh
  have again : later = second.config.inject i (first.apply w) :=
    apply_apply_of_unbound first second w i unbound binds leaves
  have once : fresh = second.config.inject i w := (second.binds?_eq_some w i binds).2.2
  refine ⟨?_, ?_, volumes_agree_iff first second w i unbound binds leaves volumes_differ apart,
    pullSecrets_agree_iff first second w i unbound binds leaves secrets_differ⟩
  · rw [again, once, InjectorConfig.boundTo?_inject, InjectorConfig.boundTo?_inject]
  · have handed := handedOn_apply_of_unbound first w unbound
    rw [again, once, InjectorConfig.agent?_inject, InjectorConfig.agent?_inject, Option.map_some,
      Option.map_some, second.config.withoutTags_placed i w (first.apply w) handed]

end TwoEvaluations

/-- On a platform with trust bundles, those of one instance give way to those of another. -/
theorem later_evaluation_agrees_iff_trustBundles :
    let first := Sample.binding { platform := .openShift } (Sample.instanceAt "tracing" "prod")
    let second := Sample.binding { platform := .openShift } (Sample.instanceAt "tracing" "staging")
    let w := Sample.deploymentWith []
    w.boundTo? = none ∧ second.binds? w = some (Sample.instanceAt "tracing" "staging") ∧
      first.volumesAdded w ≠ [] ∧
      (second.apply (first.apply w)).volumes = (second.apply w).volumes ∧
      (second.apply (first.apply w)).pullSecrets = (second.apply w).pullSecrets := by
  intro first second w
  have unbound : w.boundTo? = none := by decide
  have binds : second.binds? w = some (Sample.instanceAt "tracing" "staging") := by decide
  have leaves : w.kind = .pod → first.config.LeavesOptIn := nofun
  have none_own : w.volumes = [] := by decide
  have no_secrets : w.pullSecrets = [] := by decide
  have volumes_differ : NamesDiffer (·.name) w.volumes := by
    rw [none_own]
    exact List.Pairwise.nil
  have secrets_differ : NamesDiffer (·.name) w.pullSecrets := by
    rw [no_secrets]
    exact List.Pairwise.nil
  have apart : ∀ v ∈ w.volumes, ∀ marker, second.ends? (first.apply w) = some marker →
      v.name ∉ Naming.caNames marker := by
    intro v member
    rw [none_own] at member
    cases member
  have bundles_end : withoutCa (second.ends? (first.apply w)) (first.volumesAdded w) <+:
      second.volumesAdded w := by decide
  have no_secrets_added : first.secretsAdded w <+: second.secretsAdded w := by decide
  have added : first.volumesAdded w ≠ [] := by decide
  obtain ⟨-, -, volumes, secrets⟩ := later_evaluation_agrees_iff first second w _ unbound binds
    leaves volumes_differ secrets_differ apart
  exact ⟨unbound, binds, added, volumes.2 bundles_end, secrets.2 no_secrets_added⟩

/-- A volume from which an agent reads its settings. -/
def Sample.agentConfig (configMap : String) : Volume where
  name := "agent-config"
  configMap := some { name := configMap }

/-- An instance whose agents read their settings from a configuration map. -/
def Sample.configured (name configMap : String) : TracingInstance where
  metadata := { name := some name, namespaceName := some "tracing" }
  spec := { agent := { settings := { volumes := [agentConfig configMap] } } }

/-- The agent of `staging` reads the settings of `prod`, to which the workload was bound before. -/
theorem earlier_volume_stays :
    let first := Sample.binding {} (Sample.configured "prod" "prod-agent")
    let second := Sample.binding {} (Sample.configured "staging" "staging-agent")
    let w := Sample.deploymentWith []
    w.hasAgent = false ∧ w.boundTo? = none ∧ second.evaluation w = .injected "staging" ∧
      (second.apply w).volumes = [Sample.agentConfig "staging-agent"] ∧
      second.evaluation (first.apply w) = .updated "staging" ∧
      (second.apply (first.apply w)).volumes = [Sample.agentConfig "prod-agent"] := by
  refine ⟨by decide, by decide, by decide, by decide, by decide, by decide⟩

end TracingSidecar
