import TracingSidecar.Proofs.Injection.FixedPoint

/-!
# Where an evaluation writes

An evaluation writes to few places: the marker label of the workload, annotations of its pods that
are not in use, and the containers, volumes and pull secrets of the pods.  A workload without these
is its frame.  The modifications that make up an injection or a cleaning keep the frame one by one,
so an evaluation does (`frame_evaluate`); and of the annotations it keeps those that are there
(`annotation?_podMetadata_evaluate`).
-/

namespace TracingSidecar

/-! ### The frame -/

namespace ObjectMeta

def withoutAnnotations (m : ObjectMeta) : ObjectMeta := { m with annotations := none }

/-- A label that is removed may have been set before. -/
theorem removeLabel_setLabel (m : ObjectMeta) (key value : String) :
    (m.setLabel key value).removeLabel key = m.removeLabel key := by
  have same : ((m.labels.getD ∅).insert key value).erase key = (m.labels.getD ∅).erase key := by
    apply SortedMap.ext_get?
    intro other
    by_cases equal : other = key <;> simp [equal]
  simp [removeLabel, setLabel, same]

theorem removeLabel_removeLabel (m : ObjectMeta) (key : String) :
    (m.removeLabel key).removeLabel key = m.removeLabel key := by
  have removed : (m.removeLabel key).label? key = none := by
    rw [label?_removeLabel, if_pos rfl]
  rw [(m.removeLabel key).removeLabel_of_absent key removed]
  rfl

end ObjectMeta

/-- What an evaluation leaves alone in the specification of pods: all but containers, pull secrets
and volumes. -/
def PodSpec.frame (spec : PodSpec) : PodSpec :=
  { spec with containers := [], imagePullSecrets := none, volumes := none }

namespace Workload

/-- What an evaluation leaves alone: all but the marker label, the annotations of the pods, and
their containers, pull secrets and volumes.  Labels and pod metadata that are missing count as
empty. -/
def frame (w : Workload) : Workload :=
  ((w.modifyMetadata (·.removeLabel boundLabel)).modifyTemplateMetadata
    (·.withoutAnnotations)).modifyPodSpec (·.frame)

theorem frame_modifyPodSpec (f : PodSpec → PodSpec) (w : Workload)
    (keeps : ∀ spec, (f spec).frame = spec.frame) : (w.modifyPodSpec f).frame = w.frame := by
  obtain ⟨metadata, body⟩ := w
  rcases body with spec | spec | spec | spec <;>
    simp [frame, modifyMetadata, modifyTemplateMetadata, modifyPodSpec, Stamped.modifyTemplate,
      PodTemplate.modifyMetadata, PodTemplate.modifySpec, keeps]

theorem frame_modifyTemplateMetadata (f : ObjectMeta → ObjectMeta) (w : Workload)
    (keeps : ∀ m, (f m).withoutAnnotations = m.withoutAnnotations) :
    (w.modifyTemplateMetadata f).frame = w.frame := by
  -- In a pod, the marker is removed from the same metadata.
  have without_marker (m : ObjectMeta) : ((f m).removeLabel boundLabel).withoutAnnotations =
      (m.removeLabel boundLabel).withoutAnnotations :=
    congrArg (·.removeLabel boundLabel) (keeps m)
  obtain ⟨metadata, body⟩ := w
  rcases body with spec | spec | spec | spec <;>
    simp [frame, modifyMetadata, modifyTemplateMetadata, modifyPodSpec, Stamped.modifyTemplate,
      PodTemplate.modifyMetadata, PodTemplate.modifySpec, keeps, without_marker]

theorem frame_modifyMetadata (f : ObjectMeta → ObjectMeta) (w : Workload)
    (keeps : ∀ m, (f m).removeLabel boundLabel = m.removeLabel boundLabel) :
    (w.modifyMetadata f).frame = w.frame := by
  simp [frame, modifyMetadata, keeps]

theorem frame_removeCaVolumes (instanceName : String) (w : Workload) :
    (w.removeCaVolumes instanceName).frame = w.frame :=
  frame_modifyPodSpec _ w fun _ => rfl

theorem frame_unbindFrom (marker : String) (w : Workload) :
    (w.unbindFrom marker).frame = w.frame := by
  rcases unbindFrom_cases marker w with same | ⟨previous, removed⟩
  · rw [same]
  · rw [removed, frame_removeCaVolumes]

theorem frame_decorate (config : InjectorConfig) (w : Workload) :
    (w.decorate config).frame = w.frame :=
  frame_modifyPodSpec _ w fun _ => rfl

theorem frame_clean (instanceName : String) (w : Workload) :
    (w.clean instanceName).frame = w.frame := by
  rw [clean, frame_removeCaVolumes]
  refine (frame_modifyPodSpec _ _ ?_).trans (frame_modifyMetadata _ w ?_)
  · intro spec
    rfl
  · exact fun m => m.removeLabel_removeLabel boundLabel

end Workload

theorem InjectorConfig.frame_prepare (config : InjectorConfig) (i : TracingInstance)
    (w : Workload) : (config.prepare i w).frame = w.frame := by
  have annotated := Workload.frame_modifyTemplateMetadata
    (·.fillAnnotations config.defaultAnnotations) ((w.unbindFrom i.marker).decorate config)
    fun _ => rfl
  rw [prepare, annotated, Workload.frame_decorate, Workload.frame_unbindFrom]

theorem InjectorConfig.frame_inject (config : InjectorConfig) (i : TracingInstance) (w : Workload) :
    (config.inject i w).frame = w.frame := by
  rw [← config.frame_prepare i w]
  unfold inject
  refine (Workload.frame_modifyMetadata _ _ ?_).trans (Workload.frame_modifyPodSpec _ _ ?_)
  · exact fun m => m.removeLabel_setLabel boundLabel i.marker
  · intro spec
    rfl

/-- An evaluation keeps the frame of the workload. -/
theorem frame_evaluate (config : InjectorConfig) (ns : Namespace)
    (instances : List TracingInstance) (w : Workload) :
    (evaluate config ns instances w).2.frame = w.frame := by
  apply evaluate_cases (motive := fun later => later.frame = w.frame)
  · rfl
  · exact fun i => config.frame_inject i w
  · exact fun previous _ => w.frame_clean previous

/-! ### The annotations -/

/-- The metadata of the workload's pods; metadata that are missing are empty. -/
def Workload.podMetadata (w : Workload) : ObjectMeta := w.templateMetadata?.getD {}

/-- An injection fills in the default annotations. -/
theorem InjectorConfig.annotation?_podMetadata_inject (config : InjectorConfig)
    (i : TracingInstance) (w : Workload) (key : String) :
    (config.inject i w).podMetadata.annotation? key =
      (w.podMetadata.annotation? key).or (config.defaultAnnotations.get? key) := by
  have filled := ObjectMeta.annotation?_fillAnnotations w.podMetadata config.defaultAnnotations key
  rw [Workload.podMetadata, templateMetadata?_inject]
  dsimp only [Option.getD_some]
  split <;> exact filled

/-- A cleaning leaves the annotations alone. -/
theorem Workload.annotation?_podMetadata_clean (instanceName : String) (w : Workload)
    (key : String) :
    (w.clean instanceName).podMetadata.annotation? key = w.podMetadata.annotation? key := by
  have metadata : (w.clean instanceName).templateMetadata? =
      (w.modifyMetadata (·.removeLabel boundLabel)).templateMetadata? := by
    simp [clean, removeCaVolumes]
  rw [podMetadata, metadata, templateMetadata?_modifyMetadata, podMetadata]
  cases w.templateMetadata? <;> split <;> rfl

/-- An annotation of the pods is what it was, or it was not there and is a default one. -/
theorem annotation?_podMetadata_evaluate (config : InjectorConfig) (ns : Namespace)
    (instances : List TracingInstance) (w : Workload) (key : String) :
    let later := (evaluate config ns instances w).2
    later.podMetadata.annotation? key = w.podMetadata.annotation? key ∨
      (w.podMetadata.annotation? key = none ∧
        later.podMetadata.annotation? key = config.defaultAnnotations.get? key) := by
  apply evaluate_cases (motive := fun later =>
    later.podMetadata.annotation? key = w.podMetadata.annotation? key ∨
      (w.podMetadata.annotation? key = none ∧
        later.podMetadata.annotation? key = config.defaultAnnotations.get? key))
  · exact Or.inl rfl
  · intro i
    rw [config.annotation?_podMetadata_inject i w key]
    cases w.podMetadata.annotation? key with
    | none => exact Or.inr ⟨rfl, rfl⟩
    | some value => exact Or.inl rfl
  · exact fun previous _ => Or.inl (w.annotation?_podMetadata_clean previous key)

/-! ### The footprint -/

/-- An evaluation keeps the specification of the pods where it is. -/
theorem isSome_podSpec?_evaluate (config : InjectorConfig) (ns : Namespace)
    (instances : List TracingInstance) (w : Workload) (specified : w.podSpec?.isSome = true) :
    (evaluate config ns instances w).2.podSpec?.isSome = true := by
  apply evaluate_cases (motive := fun later => later.podSpec?.isSome = true)
  · exact specified
  · simp [InjectorConfig.podSpec?_inject]
  · simp [Workload.clean, Workload.removeCaVolumes]

/-- Whatever an evaluation does to a workload with a pod specification, it leaves all but its
footprint alone: the frame is the same, and so is every annotation of the pods, apart from default
ones that are added under keys not in use. -/
theorem evaluate_footprint (config : InjectorConfig) (ns : Namespace)
    (instances : List TracingInstance) (w : Workload) (specified : w.podSpec?.isSome = true) :
    let later := (evaluate config ns instances w).2
    later.podSpec?.isSome = true ∧ later.frame = w.frame ∧
      ∀ key, later.podMetadata.annotation? key = w.podMetadata.annotation? key ∨
        (w.podMetadata.annotation? key = none ∧
          later.podMetadata.annotation? key = config.defaultAnnotations.get? key) :=
  ⟨isSome_podSpec?_evaluate config ns instances w specified,
    frame_evaluate config ns instances w,
    annotation?_podMetadata_evaluate config ns instances w⟩

/-- A deployment whose pods have a metrics port of their own. -/
def Sample.metered : Workload where
  metadata :=
    { name := some "shop", namespaceName := some "store"
      annotations := some (.ofList [(injectKey, "true")]) }
  body := .deployment (some
    { settings := { selector := { matchLabels := some (.ofList [("app", "shop")]) } }
      template :=
        { metadata := some
            { labels := some (.ofList [("app", "shop")])
              annotations := some (.ofList [("prometheus.io/port", "8080")]) }
          spec := some { containers := [{ name := "web" }] } } })

/-- The sample keeps its metrics port, and gets the default annotation that it does not have. -/
theorem evaluate_footprint_metered :
    let candidates := [Sample.instanceAt "tracing" "prod"]
    let later := (evaluate {} {} candidates Sample.metered).2
    Sample.metered.podSpec?.isSome = true ∧ later ≠ Sample.metered ∧
      later.podMetadata.annotation? "prometheus.io/port" = some "8080" ∧
      later.podMetadata.annotation? "prometheus.io/scrape" = some "true" ∧
      later.podSpec?.isSome = true ∧ later.frame = Sample.metered.frame ∧
      ∀ key, later.podMetadata.annotation? key = Sample.metered.podMetadata.annotation? key ∨
        (Sample.metered.podMetadata.annotation? key = none ∧
          later.podMetadata.annotation? key = metricsAnnotations.get? key) := by
  intro candidates later
  have specified : Sample.metered.podSpec?.isSome = true := rfl
  have footprint := evaluate_footprint {} {} candidates Sample.metered specified
  exact ⟨specified, by decide, by decide, by decide, footprint⟩

end TracingSidecar
