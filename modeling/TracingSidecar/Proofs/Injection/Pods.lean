import TracingSidecar.Proofs.Injection.Binding
import TracingSidecar.Proofs.Injection.Run
import TracingSidecar.Proofs.Naming

/-!
# What an evaluation does to the pods

The specification of a workload's pods after an injection or a cleaning, as an update of the one
before: of all its members only containers, volumes and pull secrets change (`pods_inject`,
`pods_clean`).  An evaluation takes away the trust bundle volumes of the binding that it ends, and
joins the volumes and secrets of the instance that it binds (`volumes_apply`, `pullSecrets_apply`).
-/

namespace TracingSidecar

/-- The volumes that are left when a binding ends: all but the trust bundles of its instance. -/
def withoutCa (ended : Option String) (volumes : List Volume) : List Volume :=
  match ended with
  | none => volumes
  | some instanceName => volumes.filter fun v => !(Naming.caNames instanceName).contains v.name

/-- Where no binding ends, all volumes are left. -/
@[simp] theorem map_withoutCa_none (volumes : Option (List Volume)) :
    volumes.map (withoutCa none) = volumes :=
  by cases volumes <;> rfl

theorem mem_withoutCa (ended : Option String) (volumes : List Volume) (v : Volume) :
    v ∈ withoutCa ended volumes ↔
      v ∈ volumes ∧ ∀ marker, ended = some marker → v.name ∉ Naming.caNames marker := by
  cases ended <;> simp [withoutCa]

theorem withoutCa_append (ended : Option String) (volumes more : List Volume) :
    withoutCa ended (volumes ++ more) = withoutCa ended volumes ++ withoutCa ended more := by
  cases ended with
  | none => rfl
  | some marker => exact List.filter_append _ _

theorem withoutCa_some_eq_self (instanceName : String) (volumes : List Volume)
    (apart : ∀ v ∈ volumes, v.name ∉ Naming.caNames instanceName) :
    withoutCa (some instanceName) volumes = volumes := by
  apply List.filter_eq_self.2
  intro v member
  simpa using apart v member

theorem withoutCa_eq_self (ended : Option String) (volumes : List Volume)
    (apart : ∀ v ∈ volumes, ∀ marker, ended = some marker → v.name ∉ Naming.caNames marker) :
    withoutCa ended volumes = volumes := by
  cases ended with
  | none => rfl
  | some marker =>
    exact withoutCa_some_eq_self marker volumes fun v member => apart v member marker rfl

theorem withoutCa_filter (ended : Option String) (keep : Volume → Bool) (volumes : List Volume) :
    withoutCa ended (volumes.filter keep) = (withoutCa ended volumes).filter keep := by
  cases ended with
  | none => rfl
  | some marker => simp only [withoutCa, List.filter_filter, Bool.and_comm]

theorem namesDiffer_withoutCa (ended : Option String) (volumes : List Volume)
    (differ : NamesDiffer (·.name) volumes) : NamesDiffer (·.name) (withoutCa ended volumes) := by
  cases ended with
  | none => exact differ
  | some marker => exact List.Pairwise.filter _ differ

/-- Trust bundles have the names by which they are removed. -/
theorem name_mem_caNames (i : TracingInstance) (v : Volume) (bundle : v ∈ caVolumes i) :
    v.name ∈ Naming.caNames i.anyName := by
  rcases List.mem_pair.1 bundle with rfl | rfl
  · exact List.mem_pair.2 (Or.inl rfl)
  · exact List.mem_pair.2 (Or.inr rfl)

/-- The volumes that come with a sidecar have different names. -/
theorem InjectorConfig.namesDiffer_sidecarVolumes (config : InjectorConfig) (i : TracingInstance) :
    NamesDiffer (·.name) (config.sidecarVolumes i) :=
  namesDiffer_distinctBy _ _

/-- Without the trust bundles of the instance, the volumes that come with a sidecar are those of the
agent's own settings. -/
theorem InjectorConfig.withoutCa_sidecarVolumes (config : InjectorConfig) (i : TracingInstance)
    (apart : ∀ v ∈ i.spec.agent.settings.volumes, v.name ∉ Naming.caNames i.anyName) :
    withoutCa (some i.anyName) (config.sidecarVolumes i) =
      distinctBy (·.name) i.spec.agent.settings.volumes := by
  have own_kept := withoutCa_some_eq_self i.anyName
    (distinctBy (·.name) i.spec.agent.settings.volumes) fun v member =>
      apart v (mem_of_mem_distinctBy _ _ _ member)
  have bundles_removed : withoutCa (some i.anyName)
      (distinctBy (·.name) (if config.addsCaVolumes then caVolumes i else [])) = [] := by
    apply List.filter_eq_nil_iff.2
    intro v member
    have bundle := mem_of_mem_distinctBy _ _ _ member
    split at bundle
    · simpa using name_mem_caNames i v bundle
    · cases bundle
  rw [sidecarVolumes, distinctVolumes, distinctBy_append, withoutCa_append, withoutCa_filter,
    own_kept, bundles_removed, List.filter_nil, List.append_nil]

namespace Workload

/-- What the workload's pods are specified to be; a specification that is missing is empty. -/
def pods (w : Workload) : PodSpec := w.podSpec?.getD {}

/-- The volumes of the workload's pods. -/
def volumes (w : Workload) : List Volume := w.pods.volumes.getD []

/-- The pull secrets of the workload's pods. -/
def pullSecrets (w : Workload) : List LocalReference := w.pods.imagePullSecrets.getD []

theorem getD_map_withoutCa (ended : Option String) (w : Workload) :
    (w.pods.volumes.map (withoutCa ended)).getD [] = withoutCa ended w.volumes := by
  unfold volumes
  cases w.pods.volumes <;> cases ended <;> rfl

/-- Volumes with different names stay where they are, and those with new names follow. -/
theorem getD_joinNamed_withoutCa (ended : Option String) (brought : List Volume) (w : Workload)
    (differ : NamesDiffer (·.name) w.volumes) :
    (joinNamed (·.name) brought (w.pods.volumes.map (withoutCa ended))).getD [] =
      withoutCa ended w.volumes ++ newNamed (·.name) brought (withoutCa ended w.volumes) := by
  have left_differ := namesDiffer_withoutCa ended w.volumes differ
  rw [← getD_map_withoutCa] at left_differ
  rw [getD_joinNamed _ _ _ left_differ, getD_map_withoutCa]

@[simp] theorem pods_modifyPodSpec (f : PodSpec → PodSpec) (w : Workload) :
    (w.modifyPodSpec f).pods = f w.pods := by
  simp [pods]

@[simp] theorem pods_modifyTemplateMetadata (f : ObjectMeta → ObjectMeta) (w : Workload) :
    (w.modifyTemplateMetadata f).pods = w.pods := by
  simp [pods]

@[simp] theorem pods_modifyMetadata (f : ObjectMeta → ObjectMeta) (w : Workload) :
    (w.modifyMetadata f).pods = w.pods := rfl

theorem containers_pods (w : Workload) : w.pods.containers = w.containers := w.containers_getD

theorem pods_removeCaVolumes (instanceName : String) (w : Workload) :
    (w.removeCaVolumes instanceName).pods =
      { w.pods with volumes := w.pods.volumes.map (withoutCa (some instanceName)) } := by
  rw [removeCaVolumes, pods_modifyPodSpec]
  rfl

/-- Unbinding ends the binding to another instance, if there is one. -/
theorem pods_unbindFrom (marker : String) (w : Workload) :
    (w.unbindFrom marker).pods = { w.pods with
      volumes := w.pods.volumes.map (withoutCa (w.boundTo?.filter (· ≠ marker))) } := by
  unfold unbindFrom
  cases w.boundTo? with
  | none => rw [Option.filter_none, map_withoutCa_none]
  | some previous =>
    by_cases same : previous = marker
    · simp [same, Option.filter_some]
    · simp [same, Option.filter_some, pods_removeCaVolumes]

end Workload

namespace InjectorConfig

variable (config : InjectorConfig) (i : TracingInstance) (w : Workload)

theorem pods_prepare : (config.prepare i w).pods = { w.pods with
    containers := w.containers.map (·.decorate w.serviceName? config.propagation)
    volumes := w.pods.volumes.map (withoutCa (w.boundTo?.filter (· ≠ i.marker))) } := by
  have service := Workload.serviceName?_congr w (w.unbindFrom i.marker) (by simp) (by simp)
  rw [prepare, Workload.pods_modifyTemplateMetadata, Workload.decorate, Workload.pods_modifyPodSpec,
    service, Workload.pods_unbindFrom, Workload.containers_pods]

/-- All that an injection does to the pods. -/
theorem pods_inject : (config.inject i w).pods = { w.pods with
    containers := placeAgent (config.placed i w)
      (w.containers.map (·.decorate w.serviceName? config.propagation))
    imagePullSecrets :=
      joinNamed (·.name) i.spec.agent.settings.imagePullSecrets w.pods.imagePullSecrets
    volumes := joinNamed (·.name) (config.sidecarVolumes i)
      (w.pods.volumes.map (withoutCa (w.boundTo?.filter (· ≠ i.marker)))) } := by
  have injected : (config.inject i w).pods =
      (config.prepare i w).pods.addSidecar config i (config.placed i w) := by
    simp [inject, placed]
  rw [injected, pods_prepare]
  rfl

theorem volumes_inject (differ : NamesDiffer (·.name) w.volumes) :
    let left := withoutCa (w.boundTo?.filter (· ≠ i.marker)) w.volumes
    (config.inject i w).volumes = left ++ newNamed (·.name) (config.sidecarVolumes i) left := by
  intro left
  rw [Workload.volumes, pods_inject]
  exact w.getD_joinNamed_withoutCa _ _ differ

theorem pullSecrets_inject (differ : NamesDiffer (·.name) w.pullSecrets) :
    (config.inject i w).pullSecrets = w.pullSecrets ++
      newNamed (·.name) i.spec.agent.settings.imagePullSecrets w.pullSecrets := by
  rw [Workload.pullSecrets, pods_inject]
  exact getD_joinNamed _ _ _ differ

end InjectorConfig

/-- All that a cleaning does to the pods. -/
theorem Workload.pods_clean (instanceName : String) (w : Workload) :
    (w.clean instanceName).pods = { w.pods with
      containers := w.containers.filter (!·.isAgent)
      volumes := w.pods.volumes.map (withoutCa (some instanceName)) } := by
  rw [clean, pods_removeCaVolumes, pods_modifyPodSpec, pods_modifyMetadata, containers_pods]

namespace Occasion

variable (o : Occasion) (w : Workload)

/-- The volumes that the evaluation of a workload brings in. -/
def volumesBrought : List Volume := ((o.binds? w).map o.config.sidecarVolumes).getD []

/-- The pull secrets that the evaluation of a workload brings in. -/
def secretsBrought : List LocalReference :=
  ((o.binds? w).map (·.spec.agent.settings.imagePullSecrets)).getD []

/-- The volumes of the pods lose the trust bundles of the binding that ends, and are joined by what
is brought in. -/
theorem pods_volumes_apply : (o.apply w).pods.volumes =
    joinNamed (·.name) (o.volumesBrought w) (w.pods.volumes.map (withoutCa (o.ends? w))) := by
  unfold volumesBrought ends?
  refine o.cases w (motive := fun bound later => later.pods.volumes =
    joinNamed (·.name) ((bound.map o.config.sidecarVolumes).getD []) (w.pods.volumes.map
      (withoutCa (w.boundTo?.filter fun marker => later.boundTo? ≠ some marker)))) ?_ ?_ ?_
  · have kept : w.boundTo?.filter (fun marker => w.boundTo? ≠ some marker) = none := by
      cases w.boundTo? <;> simp
    rw [kept, map_withoutCa_none]
    rfl
  · intro i opted selected
    have ended : w.boundTo?.filter (fun marker => (o.config.inject i w).boundTo? ≠ some marker) =
        w.boundTo?.filter (· ≠ i.marker) := by
      simp only [InjectorConfig.boundTo?_inject, ne_eq, Option.some.injEq, eq_comm]
    rw [ended, InjectorConfig.pods_inject]
    rfl
  · intro previous unbound
    have ended : w.boundTo?.filter (fun marker => (w.clean previous).boundTo? ≠ some marker) =
        some previous := by
      simp [Workload.boundTo?_clean, unbound]
    rw [ended, Workload.pods_clean]
    rfl

theorem pods_imagePullSecrets_apply : (o.apply w).pods.imagePullSecrets =
    joinNamed (·.name) (o.secretsBrought w) w.pods.imagePullSecrets := by
  unfold secretsBrought
  refine o.cases w (motive := fun bound later => later.pods.imagePullSecrets =
    joinNamed (·.name) ((bound.map (·.spec.agent.settings.imagePullSecrets)).getD [])
      w.pods.imagePullSecrets) ?_ ?_ ?_
  · rfl
  · intro i opted selected
    rw [InjectorConfig.pods_inject]
    rfl
  · intro previous unbound
    rw [Workload.pods_clean]
    rfl

theorem volumes_eq_joinNamed : (o.apply w).volumes = (joinNamed (·.name) (o.volumesBrought w)
    (w.pods.volumes.map (withoutCa (o.ends? w)))).getD [] := by
  rw [Workload.volumes, pods_volumes_apply]

/-- Every volume after an evaluation is one that was left or one that was brought in. -/
theorem mem_of_mem_volumes_apply (v : Volume) (member : v ∈ (o.apply w).volumes) :
    v ∈ withoutCa (o.ends? w) w.volumes ∨ v ∈ o.volumesBrought w := by
  rw [volumes_eq_joinNamed] at member
  rw [← Workload.getD_map_withoutCa]
  exact mem_of_mem_joinNamed _ _ _ v member

/-- No name is lost of the volumes that were left and of those that were brought in. -/
theorem namesCovered_volumes_apply : NamesCovered (·.name)
    (withoutCa (o.ends? w) w.volumes ++ o.volumesBrought w) (o.apply w).volumes := by
  rw [volumes_eq_joinNamed, ← Workload.getD_map_withoutCa]
  exact namesCovered_joinNamed _ _ _

theorem namesDiffer_volumes_apply (differ : NamesDiffer (·.name) w.volumes) :
    NamesDiffer (·.name) (o.apply w).volumes := by
  rw [volumes_eq_joinNamed]
  apply namesDiffer_joinNamed
  rw [Workload.getD_map_withoutCa]
  exact namesDiffer_withoutCa _ _ differ

theorem volumes_apply (differ : NamesDiffer (·.name) w.volumes) : (o.apply w).volumes =
    withoutCa (o.ends? w) w.volumes ++
      newNamed (·.name) (o.volumesBrought w) (withoutCa (o.ends? w) w.volumes) := by
  rw [volumes_eq_joinNamed, Workload.getD_joinNamed_withoutCa _ _ _ differ]

theorem pullSecrets_apply (differ : NamesDiffer (·.name) w.pullSecrets) : (o.apply w).pullSecrets =
    w.pullSecrets ++ newNamed (·.name) (o.secretsBrought w) w.pullSecrets := by
  rw [Workload.pullSecrets, pods_imagePullSecrets_apply, getD_joinNamed _ _ _ differ]
  rfl

theorem namesDiffer_pullSecrets_apply (differ : NamesDiffer (·.name) w.pullSecrets) :
    NamesDiffer (·.name) (o.apply w).pullSecrets := by
  rw [Workload.pullSecrets, pods_imagePullSecrets_apply]
  exact namesDiffer_joinNamed _ _ _ differ

/-- The names of what is brought in differ. -/
theorem namesDiffer_volumesBrought : NamesDiffer (·.name) (o.volumesBrought w) := by
  unfold volumesBrought
  cases o.binds? w with
  | none => exact List.Pairwise.nil
  | some i => exact o.config.namesDiffer_sidecarVolumes i

/-- No evaluation touches the init containers. -/
theorem initContainers_apply : (o.apply w).pods.initContainers = w.pods.initContainers := by
  refine o.cases w (motive := fun _ later =>
    later.pods.initContainers = w.pods.initContainers) ?_ ?_ ?_
  · rfl
  · intro i opted selected
    rw [InjectorConfig.pods_inject]
  · intro previous unbound
    rw [Workload.pods_clean]

end Occasion

end TracingSidecar
