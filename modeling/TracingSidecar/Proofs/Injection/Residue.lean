import TracingSidecar.Proofs.Injection.Footprint
import TracingSidecar.Proofs.Injection.Pods

/-!
# What a binding leaves behind

Injecting an instance and cleaning the workload of it again is almost nothing: the agent, the marker
and the trust bundles are gone, and what stays is known exactly.  The residue of an instance in a
workload is stated from the workload alone (`InjectorConfig.residue`), and a workload that had none
of what a cleaning takes away is left with it (`clean_inject`).  Lists and maps that are absent count
as empty there, for an injection creates some of them.
-/

namespace TracingSidecar

/-! ### Absent and empty -/

/-- Labels and annotations that are absent are written out as empty. -/
def ObjectMeta.explicit (m : ObjectMeta) : ObjectMeta :=
  { m with labels := some (m.labels.getD ∅), annotations := some (m.annotations.getD ∅) }

/-- Pull secrets and volumes that are absent are written out as empty. -/
def PodSpec.explicit (spec : PodSpec) : PodSpec :=
  { spec with
    imagePullSecrets := some (spec.imagePullSecrets.getD [])
    volumes := some (spec.volumes.getD []) }

/-- What is absent in the metadata of a workload, or in what it says about its pods, is written out
as empty; so are the metadata and the specification of the pods themselves. -/
def Workload.explicit (w : Workload) : Workload :=
  ((w.modifyMetadata (·.explicit)).modifyTemplateMetadata (·.explicit)).modifyPodSpec (·.explicit)

namespace Workload

/-- An unbound workload is put together from its frame and what the frame leaves out. -/
theorem explicit_eq (w : Workload) (unbound : w.boundTo? = none) :
    w.explicit = ((w.frame.modifyMetadata (·.explicit)).modifyTemplateMetadata fun m =>
        { m.explicit with annotations := some (w.podMetadata.annotations.getD ∅) }).modifyPodSpec
      fun spec => { spec with
        containers := w.containers
        imagePullSecrets := some w.pullSecrets
        volumes := some w.volumes } := by
  have unmarked : w.modifyMetadata (·.removeLabel boundLabel) =
      w.modifyMetadata fun m => { m with labels := some (m.labels.getD ∅) } := by
    rw [modifyMetadata, w.metadata.removeLabel_of_absent boundLabel unbound, modifyMetadata]
  rw [frame, unmarked]
  -- Both sides create what is missing on the way to the pods, and write out the same members.
  obtain ⟨metadata, body⟩ := w
  rcases body with spec | stamped | stamped | stamped
  · cases spec <;> rfl
  all_goals rcases stamped with _ | ⟨settings, _ | m, _ | spec⟩ <;> rfl

/-- Unbound workloads that agree in their frames and in what the frames leave out are the same, up
to what is absent. -/
theorem explicit_congr (w later : Workload) (unbound : w.boundTo? = none)
    (still_unbound : later.boundTo? = none) (frame : later.frame = w.frame)
    (annotations : ∀ key, later.podMetadata.annotation? key = w.podMetadata.annotation? key)
    (containers : later.containers = w.containers) (secrets : later.pullSecrets = w.pullSecrets)
    (volumes : later.volumes = w.volumes) : later.explicit = w.explicit := by
  have bound_annotations :
      later.podMetadata.annotations.getD ∅ = w.podMetadata.annotations.getD ∅ := by
    apply SortedMap.ext_get?
    intro key
    rw [← ObjectMeta.annotation?_eq, annotations key, ObjectMeta.annotation?_eq]
  rw [later.explicit_eq still_unbound, w.explicit_eq unbound, frame, bound_annotations, containers,
    secrets, volumes]

end Workload

/-! ### The residue -/

/-- What a binding leaves in the pods: the variables of the decoration, and the volumes and pull
secrets of the agent's own settings that have new names, behind those that were there.  Pull secrets
that were there are all kept if the agent has none, and else of several with one name the first. -/
def PodSpec.residue (config : InjectorConfig) (i : TracingInstance) (serviceName : Option String)
    (spec : PodSpec) : PodSpec :=
  let agent := i.spec.agent.settings
  let secrets := spec.imagePullSecrets.getD []
  let volumes := spec.volumes.getD []
  { spec with
    containers := spec.containers.map (·.decorate serviceName config.propagation)
    imagePullSecrets :=
      if agent.imagePullSecrets.isEmpty then spec.imagePullSecrets
      else some (distinctBy (·.name) secrets ++ newNamed (·.name) agent.imagePullSecrets secrets)
    volumes := some (volumes ++ newNamed (·.name) agent.volumes volumes) }

namespace InjectorConfig

variable (config : InjectorConfig) (i : TracingInstance) (w : Workload)

/-- A workload with what a binding to an instance leaves in it: besides what is in its pods, the
default annotations that they did not have. -/
def residue : Workload :=
  (w.modifyTemplateMetadata (·.fillAnnotations config.defaultAnnotations)).modifyPodSpec
    (·.residue config i w.serviceName?)

theorem boundTo?_residue : (config.residue i w).boundTo? = w.boundTo? := by
  rw [Workload.boundTo?, residue, Workload.metadata_modifyPodSpec,
    Workload.metadata_modifyTemplateMetadata]
  split <;> rfl

theorem frame_residue : (config.residue i w).frame = w.frame := by
  unfold residue
  refine (Workload.frame_modifyPodSpec _ _ ?_).trans (Workload.frame_modifyTemplateMetadata _ w ?_)
  · intro spec
    rfl
  · intro m
    rfl

theorem annotation?_podMetadata_residue (key : String) :
    (config.residue i w).podMetadata.annotation? key =
      (w.podMetadata.annotation? key).or (config.defaultAnnotations.get? key) := by
  have filled := ObjectMeta.annotation?_fillAnnotations w.podMetadata config.defaultAnnotations key
  simpa [residue, Workload.podMetadata] using filled

theorem pods_residue : (config.residue i w).pods = w.pods.residue config i w.serviceName? := by
  simp [residue]

/-! ### Cleaning what was injected -/

theorem annotation?_podMetadata_clean_inject (key : String) :
    ((config.inject i w).clean i.anyName).podMetadata.annotation? key =
      (w.podMetadata.annotation? key).or (config.defaultAnnotations.get? key) := by
  rw [Workload.annotation?_podMetadata_clean, annotation?_podMetadata_inject]

/-- A workload without agents is left with its containers, decorated. -/
theorem containers_clean_inject (bare : w.hasAgent = false) :
    ((config.inject i w).clean i.anyName).containers =
      w.containers.map (·.decorate w.serviceName? config.propagation) := by
  rw [Workload.containers_clean, containers_inject, filter_placeAgent _ _ (config.isAgent_placed i w),
    containers_prepare, List.filter_eq_self]
  intro c member
  obtain ⟨original, original_member, rfl⟩ := List.mem_map.1 member
  have application := List.any_eq_false.1 bare original original_member
  simpa using application

theorem pullSecrets_clean_inject : ((config.inject i w).clean i.anyName).pullSecrets =
    (joinNamed (·.name) i.spec.agent.settings.imagePullSecrets w.pods.imagePullSecrets).getD [] := by
  rw [Workload.pullSecrets, Workload.pods_clean, pods_inject]

/-- The trust bundles that an injection adds are the only volumes that a cleaning removes. -/
theorem volumes_clean_inject (unbound : w.boundTo? = none) (differ : NamesDiffer (·.name) w.volumes)
    (apart : ∀ v ∈ w.volumes ++ i.spec.agent.settings.volumes,
      v.name ∉ Naming.caNames i.anyName) :
    ((config.inject i w).clean i.anyName).volumes =
      w.volumes ++ newNamed (·.name) i.spec.agent.settings.volumes w.volumes := by
  have injected := config.volumes_inject i w differ
  rw [unbound, Option.filter_none, withoutCa] at injected
  have kept := withoutCa_some_eq_self i.anyName w.volumes fun v member =>
    apart v (List.mem_append_left _ member)
  have brought := config.withoutCa_sidecarVolumes i fun v member =>
    apart v (List.mem_append_right _ member)
  have once := distinctBy_eq_self _ _ (config.namesDiffer_sidecarVolumes i)
  rw [Workload.volumes, Workload.pods_clean, Workload.getD_map_withoutCa, injected,
    withoutCa_append, kept, newNamed, once, withoutCa_filter, brought, newNamed]

/-- Injecting an instance into a workload that has neither a marker nor an agent, and whose volumes
can be told from each other and from the trust bundles of the instance, and cleaning it again, leaves
the workload with the residue of the instance and nothing else. -/
theorem clean_inject (unbound : w.boundTo? = none) (bare : w.hasAgent = false)
    (differ : NamesDiffer (·.name) w.volumes)
    (apart : ∀ v ∈ w.volumes ++ i.spec.agent.settings.volumes,
      v.name ∉ Naming.caNames i.anyName) :
    ((config.inject i w).clean i.anyName).explicit = (config.residue i w).explicit := by
  have residue_unbound := (config.boundTo?_residue i w).trans unbound
  have clean_unbound := Workload.boundTo?_clean i.anyName (config.inject i w)
  apply Workload.explicit_congr _ _ residue_unbound clean_unbound
  · rw [Workload.frame_clean, frame_inject, frame_residue]
  · intro key
    rw [annotation?_podMetadata_clean_inject, annotation?_podMetadata_residue]
  · rw [config.containers_clean_inject i w bare, ← (config.residue i w).containers_pods,
      pods_residue, PodSpec.residue, Workload.containers_pods]
  · rw [pullSecrets_clean_inject, Workload.pullSecrets, pods_residue, PodSpec.residue, joinNamed]
    simp only [distinctBy_append, newNamed]
  · rw [config.volumes_clean_inject i w unbound differ apart, Workload.volumes, Workload.volumes,
      pods_residue]
    rfl

end InjectorConfig

/-- A deployment with a volume and a pull secret of its own. -/
def Sample.provided : Workload where
  metadata := { name := some "shop", namespaceName := some "store" }
  body := .deployment (some
    { settings := {}
      template :=
        { spec := some
            { containers := [{ name := "web" }]
              imagePullSecrets := some [{ name := "registry" }]
              volumes := some [{ name := "data", emptyDir := some {} }] } } })

/-- An instance whose agents bring in volumes and pull secrets, some with names in use. -/
def Sample.outfitted : TracingInstance where
  metadata := { name := some "prod", namespaceName := some "tracing" }
  spec :=
    { agent :=
        { settings :=
            { imagePullSecrets := [{ name := "mirror" }, { name := "registry" }, { name := "mirror" }]
              volumes := [{ name := "data" }, .ofConfigMap "settings" "agent.yaml" "agent.yaml",
                { name := "settings" }] } } }

/-- The sample is left with one more volume and one more pull secret, and without trust bundles. -/
theorem clean_inject_provided :
    let config : InjectorConfig := { platform := .openShift }
    let prod := Sample.outfitted
    let w := Sample.provided
    let left := (config.inject prod w).clean prod.anyName
    w.boundTo? = none ∧ w.hasAgent = false ∧ NamesDiffer (·.name) w.volumes ∧
      (∀ v ∈ w.volumes ++ prod.spec.agent.settings.volumes,
        v.name ∉ Naming.caNames prod.anyName) ∧
      (config.inject prod w).volumes.map (·.name) =
        ["data", "settings", "prod-trusted-ca", "prod-service-ca"] ∧
      left.volumes.map (·.name) = ["data", "settings"] ∧
      left.pullSecrets.map (·.name) = ["registry", "mirror"] ∧
      left.explicit = (config.residue prod w).explicit := by
  intro config prod w left
  have differ : NamesDiffer (·.name) w.volumes := List.pairwise_singleton _ _
  have apart : ∀ v ∈ w.volumes ++ prod.spec.agent.settings.volumes,
      v.name ∉ Naming.caNames prod.anyName := by decide
  exact ⟨by decide, by decide, differ, apart, by decide, by decide, by decide,
    config.clean_inject prod w (by decide) (by decide) differ apart⟩

end TracingSidecar
