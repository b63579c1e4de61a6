import TracingSidecar.Proofs.Bindings
import TracingSidecar.Object.Workload

/-!
# Views of a workload and their modifications

A workload is read through four views: its metadata, its kind, the metadata of its pods and the
specification of its pods.  Each modification is described by what every view shows afterwards.  A
modification that leaves what it finds leaves the workload (`modifyPodSpec_eq_self` and its
neighbours); that is how a second pass is shown to change nothing.
-/

namespace TracingSidecar

namespace ObjectMeta

/-- Labels that are absent bind nothing. -/
theorem label?_eq (m : ObjectMeta) (key : String) : m.label? key = (m.labels.getD ∅).get? key := by
  unfold label?
  cases m.labels <;> rfl

/-- Annotations that are absent bind nothing. -/
theorem annotation?_eq (m : ObjectMeta) (key : String) :
    m.annotation? key = (m.annotations.getD ∅).get? key := by
  unfold annotation?
  cases m.annotations <;> rfl

theorem label?_setLabel (m : ObjectMeta) (key other value : String) :
    (m.setLabel key value).label? other = if other = key then some value else m.label? other := by
  rw [label?_eq, label?_eq]
  exact SortedMap.get?_insert _ _ _ _

theorem label?_removeLabel (m : ObjectMeta) (key other : String) :
    (m.removeLabel key).label? other = if other = key then none else m.label? other := by
  rw [label?_eq, label?_eq]
  exact SortedMap.get?_erase _ _ _

theorem annotation?_fillAnnotations (m : ObjectMeta) (defaults : SortedMap String) (key : String) :
    (m.fillAnnotations defaults).annotation? key =
      (m.annotation? key).or (defaults.get? key) := by
  rw [annotation?_eq, annotation?_eq]
  exact SortedMap.get?_fill _ defaults.entries key

/-- Setting a label to the value that it has changes nothing. -/
theorem setLabel_eq_self (m : ObjectMeta) (key value : String)
    (bound : m.label? key = some value) : m.setLabel key value = m := by
  obtain ⟨labels, present, found⟩ := Option.bind_eq_some_iff.1 bound
  have same := SortedMap.insert_eq_self labels key value found
  have unchanged : some ((m.labels.getD ∅).insert key value) = m.labels := by
    rw [present, Option.getD_some, same]
  rw [setLabel, unchanged]

/-- Removing a label that is not there writes out the labels. -/
theorem removeLabel_of_absent (m : ObjectMeta) (key : String) (absent : m.label? key = none) :
    m.removeLabel key = { m with labels := some (m.labels.getD ∅) } := by
  rw [label?_eq] at absent
  rw [removeLabel, SortedMap.erase_eq_self _ key absent]

/-- Annotations that were filled are full. -/
theorem fillAnnotations_again (m : ObjectMeta) (defaults : SortedMap String) :
    (m.fillAnnotations defaults).fillAnnotations defaults = m.fillAnnotations defaults := by
  simp [fillAnnotations, SortedMap.fill_fill]

end ObjectMeta

theorem PodTemplate.modifyMetadata_eq_self (f : ObjectMeta → ObjectMeta) (template : PodTemplate)
    (m : ObjectMeta) (present : template.metadata = some m) (unchanged : f m = m) :
    template.modifyMetadata f = template := by
  have same : some (f (template.metadata.getD {})) = template.metadata := by
    rw [present, Option.getD_some, unchanged]
  rw [modifyMetadata, same]

theorem PodTemplate.modifySpec_eq_self (f : PodSpec → PodSpec) (template : PodTemplate)
    (spec : PodSpec) (present : template.spec = some spec) (unchanged : f spec = spec) :
    template.modifySpec f = template := by
  have same : some (f (template.spec.getD {})) = template.spec := by
    rw [present, Option.getD_some, unchanged]
  rw [modifySpec, same]

theorem Stamped.modifyTemplate_eq_self {σ : Type} [Inhabited σ] (f : PodTemplate → PodTemplate)
    (stamped : Option (Stamped σ)) (template : PodTemplate)
    (present : stamped.map (·.template) = some template) (unchanged : f template = template) :
    modifyTemplate f stamped = stamped := by
  obtain ⟨found, rfl, rfl⟩ := Option.map_eq_some_iff.1 present
  rw [modifyTemplate, Option.getD_some, unchanged]

namespace Workload

/-! ### The metadata -/

/-- Only a pod keeps the metadata of its template among its own. -/
theorem metadata_modifyTemplateMetadata (f : ObjectMeta → ObjectMeta) (w : Workload) :
    (w.modifyTemplateMetadata f).metadata = if w.kind = .pod then f w.metadata else w.metadata := by
  obtain ⟨metadata, body⟩ := w
  cases body <;> rfl

@[simp] theorem metadata_modifyMetadata (f : ObjectMeta → ObjectMeta) (w : Workload) :
    (w.modifyMetadata f).metadata = f w.metadata := rfl

/-- What a change of the metadata shows in the metadata of the pods. -/
theorem templateMetadata?_modifyMetadata (f : ObjectMeta → ObjectMeta) (w : Workload) :
    (w.modifyMetadata f).templateMetadata? =
      if w.kind = .pod then w.templateMetadata?.map f else w.templateMetadata? := by
  obtain ⟨metadata, body⟩ := w
  cases body <;> rfl

/-! ### The containers -/

theorem containers_eq (w : Workload) (spec : PodSpec) (present : w.podSpec? = some spec) :
    w.containers = spec.containers := by
  rw [containers, present]
  rfl

theorem containers_modifyPodSpec (f : PodSpec → PodSpec) (w : Workload) :
    (w.modifyPodSpec f).containers = (f (w.podSpec?.getD {})).containers := by
  rw [containers, podSpec?_modifyPodSpec]
  rfl

/-- A pod specification that is missing has no containers. -/
theorem containers_getD (w : Workload) : (w.podSpec?.getD {}).containers = w.containers := by
  rw [containers]
  cases w.podSpec? <;> rfl

@[simp] theorem containers_modifyTemplateMetadata (f : ObjectMeta → ObjectMeta) (w : Workload) :
    (w.modifyTemplateMetadata f).containers = w.containers := by
  simp [containers]

/-! ### Modifications that find what they would leave -/

theorem modifyMetadata_eq_self (f : ObjectMeta → ObjectMeta) (w : Workload)
    (unchanged : f w.metadata = w.metadata) : w.modifyMetadata f = w := by
  rw [modifyMetadata, unchanged]

theorem modifyPodSpec_eq_self (f : PodSpec → PodSpec) (w : Workload) (spec : PodSpec)
    (present : w.podSpec? = some spec) (unchanged : f spec = spec) : w.modifyPodSpec f = w := by
  obtain ⟨metadata, body⟩ := w
  cases body with
  | pod found =>
    change found = some spec at present
    simp [modifyPodSpec, present, unchanged]
  | deployment found | statefulSet found | daemonSet found =>
    obtain ⟨template, stamped, inner⟩ := Option.bind_eq_some_iff.1 present
    have same := PodTemplate.modifySpec_eq_self f template spec inner unchanged
    have whole := Stamped.modifyTemplate_eq_self (·.modifySpec f) found template stamped same
    simp only [modifyPodSpec, whole]

theorem modifyTemplateMetadata_eq_self (f : ObjectMeta → ObjectMeta) (w : Workload)
    (m : ObjectMeta) (present : w.templateMetadata? = some m) (unchanged : f m = m) :
    w.modifyTemplateMetadata f = w := by
  obtain ⟨metadata, body⟩ := w
  cases body with
  | pod found =>
    cases present
    exact modifyMetadata_eq_self f _ unchanged
  | deployment found | statefulSet found | daemonSet found =>
    obtain ⟨template, stamped, inner⟩ := Option.bind_eq_some_iff.1 present
    have same := PodTemplate.modifyMetadata_eq_self f template m inner unchanged
    have whole := Stamped.modifyTemplate_eq_self (·.modifyMetadata f) found template stamped same
    simp only [modifyTemplateMetadata, whole]

end Workload

end TracingSidecar
