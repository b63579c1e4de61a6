import TracingSidecar.Injection.Evaluation
import TracingSidecar.Proofs.Object.Views

/-!
# What injection and cleaning leave alone

Each view of a workload after an injection or a cleaning, in terms of the views before.  From these
follow the facts that an evaluation decides by: what the workload asks for and where it stands are
the same before and after, as long as the default annotations do not ask for a sidecar themselves
(`LeavesOptIn`).
-/

namespace TracingSidecar

/-- The default annotations ask for nothing. -/
def InjectorConfig.LeavesOptIn (config : InjectorConfig) : Prop :=
  config.defaultAnnotations.get? injectKey = none ∧
    config.defaultAnnotations.get? olderInjectKey = none

/-- The settings of an operator leave the opt-in alone, whatever its environment. -/
theorem leavesOptIn_of_metricsAnnotations (config : InjectorConfig)
    (metrics : config.defaultAnnotations = metricsAnnotations) : config.LeavesOptIn := by
  unfold InjectorConfig.LeavesOptIn
  rw [metrics]
  decide

/-- The marker is not among the labels that name an application. -/
theorem ObjectMeta.appName?_setLabel_boundLabel (m : ObjectMeta) (value : String) :
    (m.setLabel boundLabel value).appName? = m.appName? := by
  have kept (key : String) (other : key ≠ boundLabel) :
      (m.setLabel boundLabel value).label? key = m.label? key := by
    rw [label?_setLabel, if_neg other]
  simp only [appName?, List.findSome?_cons, List.findSome?_nil,
    kept appInstanceLabel (by decide), kept appNameLabel (by decide), kept appLabel (by decide)]

namespace Workload

/-! ### Before the sidecar is placed -/

/-- Only pods are looked at for a controller. -/
theorem isControlled_eq (w : Workload) :
    w.isControlled = (decide (w.kind = .pod) && w.metadata.isControlled) := by
  unfold isControlled kind
  cases w.body <;> rfl

/-- Unbinding changes the pod specification or nothing. -/
theorem unbindFrom_cases (marker : String) (w : Workload) :
    w.unbindFrom marker = w ∨ ∃ previous, w.unbindFrom marker = w.removeCaVolumes previous := by
  unfold unbindFrom
  split
  next previous _ =>
    split
    · exact Or.inl rfl
    · exact Or.inr ⟨previous, rfl⟩
  next => exact Or.inl rfl

@[simp] theorem metadata_unbindFrom (marker : String) (w : Workload) :
    (w.unbindFrom marker).metadata = w.metadata := by
  rcases unbindFrom_cases marker w with same | ⟨previous, removed⟩
  · rw [same]
  · rw [removed, removeCaVolumes, metadata_modifyPodSpec]

@[simp] theorem kind_unbindFrom (marker : String) (w : Workload) :
    (w.unbindFrom marker).kind = w.kind := by
  rcases unbindFrom_cases marker w with same | ⟨previous, removed⟩
  · rw [same]
  · rw [removed, removeCaVolumes, kind_modifyPodSpec]

@[simp] theorem templateMetadata?_unbindFrom (marker : String) (w : Workload) :
    (w.unbindFrom marker).templateMetadata? = w.templateMetadata? := by
  rcases unbindFrom_cases marker w with same | ⟨previous, removed⟩
  · rw [same]
  · rw [removed, removeCaVolumes, templateMetadata?_modifyPodSpec]

@[simp] theorem containers_unbindFrom (marker : String) (w : Workload) :
    (w.unbindFrom marker).containers = w.containers := by
  rcases unbindFrom_cases marker w with same | ⟨previous, removed⟩
  · rw [same]
  · rw [removed, removeCaVolumes, containers_modifyPodSpec, containers_getD]

/-- The name that traces are reported under depends on metadata only. -/
theorem serviceName?_congr (w later : Workload) (metadata : later.metadata = w.metadata)
    (template : later.templateMetadata? = w.templateMetadata?) :
    later.serviceName? = w.serviceName? := by
  unfold serviceName? appName? namespaceOrDefault
  rw [metadata, template]

end Workload

namespace InjectorConfig

variable (config : InjectorConfig) (i : TracingInstance) (w : Workload)

@[simp] theorem kind_prepare : (config.prepare i w).kind = w.kind := by
  simp [prepare, Workload.decorate]

theorem metadata_prepare : (config.prepare i w).metadata =
    if w.kind = .pod then w.metadata.fillAnnotations config.defaultAnnotations
    else w.metadata := by
  simp [prepare, Workload.decorate, Workload.metadata_modifyTemplateMetadata]

theorem templateMetadata?_prepare : (config.prepare i w).templateMetadata? =
    some ((w.templateMetadata?.getD {}).fillAnnotations config.defaultAnnotations) := by
  simp [prepare, Workload.decorate]

theorem containers_prepare : (config.prepare i w).containers =
    w.containers.map (·.decorate w.serviceName? config.propagation) := by
  have service := Workload.serviceName?_congr w (w.unbindFrom i.marker) (by simp) (by simp)
  rw [prepare, Workload.containers_modifyTemplateMetadata, Workload.decorate,
    Workload.containers_modifyPodSpec, service]
  simp only [Workload.containers_getD, Workload.containers_unbindFrom]

/-! ### After an injection -/

/-- The sidecar that an injection places. -/
def placed : Container := config.sidecar i (config.prepare i w) (config.prepare i w).agent?

@[simp] theorem kind_inject : (config.inject i w).kind = w.kind := by
  simp [inject]

theorem podSpec?_inject : (config.inject i w).podSpec? =
    some (((config.prepare i w).podSpec?.getD {}).addSidecar config i (config.placed i w)) := by
  simp [inject, placed]

theorem containers_inject : (config.inject i w).containers =
    placeAgent (config.placed i w) (config.prepare i w).containers := by
  rw [Workload.containers_eq _ _ (podSpec?_inject config i w), PodSpec.addSidecar,
    Workload.containers_getD]

theorem metadata_inject : (config.inject i w).metadata =
    (if w.kind = .pod then w.metadata.fillAnnotations config.defaultAnnotations
      else w.metadata).setLabel boundLabel i.marker := by
  simp [inject, metadata_prepare]

theorem templateMetadata?_inject : (config.inject i w).templateMetadata? =
    let filled := (w.templateMetadata?.getD {}).fillAnnotations config.defaultAnnotations
    some (if w.kind = .pod then filled.setLabel boundLabel i.marker else filled) := by
  rw [inject, Workload.templateMetadata?_modifyMetadata, Workload.kind_modifyPodSpec,
    Workload.templateMetadata?_modifyPodSpec, kind_prepare, templateMetadata?_prepare]
  split <;> rfl

/-- An injection keeps all metadata of the workload but the labels and annotations. -/
theorem identity_inject :
    (config.inject i w).metadata.namespaceName = w.metadata.namespaceName ∧
      (config.inject i w).metadata.ownerReferences = w.metadata.ownerReferences ∧
      (config.inject i w).anyName = w.anyName := by
  unfold Workload.anyName
  rw [metadata_inject]
  split <;> exact ⟨rfl, rfl, rfl⟩

theorem boundTo?_inject : (config.inject i w).boundTo? = some i.marker := by
  rw [Workload.boundTo?, metadata_inject, ObjectMeta.label?_setLabel, if_pos rfl]

/-- The marker is the only label that an injection sets. -/
theorem label?_inject (key : String) (other : key ≠ boundLabel) :
    (config.inject i w).metadata.label? key = w.metadata.label? key := by
  rw [metadata_inject, ObjectMeta.label?_setLabel, if_neg other]
  split <;> rfl

/-- An injection changes nothing about who is responsible for the workload. -/
theorem responsible_inject : (config.inject i w).isBackendComponent = w.isBackendComponent ∧
    (config.inject i w).isControlled = w.isControlled := by
  constructor
  · rw [Workload.isBackendComponent, label?_inject config i w appLabel (by decide),
      label?_inject config i w appComponentLabel (by decide)]
    rfl
  · rw [Workload.isControlled_eq, kind_inject, ObjectMeta.isControlled,
      (identity_inject config i w).2.1, Workload.isControlled_eq, ObjectMeta.isControlled]

/-- Only default annotations are added, and those of the workload itself only if it is a pod. -/
theorem annotation?_inject (key : String)
    (absent : w.kind = .pod → config.defaultAnnotations.get? key = none) :
    (config.inject i w).metadata.annotation? key = w.metadata.annotation? key := by
  rw [metadata_inject]
  split
  next pod =>
    have filled := ObjectMeta.annotation?_fillAnnotations w.metadata config.defaultAnnotations key
    rw [absent pod, Option.or_none] at filled
    exact filled
  next => rfl

/-- The workload asks for the same as before. -/
theorem optIn?_inject (leaves : w.kind = .pod → config.LeavesOptIn) :
    (config.inject i w).optIn? = w.optIn? := by
  have annotation := annotation?_inject config i w injectKey fun pod => (leaves pod).1
  have older_annotation := annotation?_inject config i w olderInjectKey fun pod => (leaves pod).2
  have label := label?_inject config i w injectKey (by decide)
  have older_label := label?_inject config i w olderInjectKey (by decide)
  simp only [Workload.optIn?, optInValue?, firstValue?, List.findSome?_cons, List.findSome?_nil,
    annotation, older_annotation, label, older_label]

/-- Traces are reported under the same name as before: the marker names no application, and pod
metadata that was missing has no labels of its own. -/
theorem serviceName?_inject : (config.inject i w).serviceName? = w.serviceName? := by
  have own : (config.inject i w).metadata.appName? = w.metadata.appName? := by
    rw [metadata_inject, ObjectMeta.appName?_setLabel_boundLabel]
    split <;> rfl
  have stamped : (config.inject i w).templateMetadata?.bind (·.appName?) =
      w.templateMetadata?.bind (·.appName?) := by
    rw [templateMetadata?_inject]
    have marked (m : ObjectMeta) := ObjectMeta.appName?_setLabel_boundLabel
      (m.fillAnnotations config.defaultAnnotations) i.marker
    cases w.templateMetadata? with
    | none => split <;> exact marked {}
    | some m => split <;> first | exact marked m | rfl
  unfold Workload.serviceName? Workload.appName? Workload.namespaceOrDefault
  rw [own, stamped, (identity_inject config i w).1]

end InjectorConfig

namespace Workload

/-! ### After a cleaning -/

variable (instanceName : String) (w : Workload)

@[simp] theorem kind_clean : (w.clean instanceName).kind = w.kind := by
  simp [clean, removeCaVolumes]

theorem containers_clean :
    (w.clean instanceName).containers = w.containers.filter (!·.isAgent) := by
  rw [clean, removeCaVolumes, containers_modifyPodSpec, podSpec?_modifyPodSpec]
  simp only [Option.getD_some, podSpec?_modifyMetadata, containers_getD]

theorem metadata_clean : (w.clean instanceName).metadata = w.metadata.removeLabel boundLabel := by
  simp [clean, removeCaVolumes]

theorem identity_clean :
    (w.clean instanceName).metadata.namespaceName = w.metadata.namespaceName ∧
      (w.clean instanceName).metadata.ownerReferences = w.metadata.ownerReferences ∧
      (w.clean instanceName).anyName = w.anyName := by
  unfold anyName
  rw [metadata_clean]
  exact ⟨rfl, rfl, rfl⟩

theorem boundTo?_clean : (w.clean instanceName).boundTo? = none := by
  rw [boundTo?, metadata_clean, ObjectMeta.label?_removeLabel, if_pos rfl]

theorem label?_clean (key : String) (other : key ≠ boundLabel) :
    (w.clean instanceName).metadata.label? key = w.metadata.label? key := by
  rw [metadata_clean, ObjectMeta.label?_removeLabel, if_neg other]

theorem optIn?_clean : (w.clean instanceName).optIn? = w.optIn? := by
  have annotation (key : String) :
      (w.clean instanceName).metadata.annotation? key = w.metadata.annotation? key := by
    rw [metadata_clean]
    rfl
  have label := label?_clean instanceName w injectKey (by decide)
  have older_label := label?_clean instanceName w olderInjectKey (by decide)
  simp only [optIn?, optInValue?, firstValue?, List.findSome?_cons, List.findSome?_nil,
    annotation, label, older_label]

end Workload

end TracingSidecar
