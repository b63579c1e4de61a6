import TracingSidecar.Object.Pod

/-!
# Workloads

A workload is a pod, or an object whose controller stamps pods from a template: a deployment, a
stateful set or a daemon set.  All four carry object metadata; what they say about pods is reached
through `templateMetadata?` and `podSpec?` and changed through `modifyTemplateMetadata` and
`modifyPodSpec`, which create what is missing on the way.  The metadata of a pod's template is the
pod's own metadata.

The `status` of all four kinds is left out.  So are `strategy` of a deployment, `updateStrategy` of
the other two, and `minReadySeconds`, `ordinals`, `persistentVolumeClaimRetentionPolicy`,
`revisionHistoryLimit` and `volumeClaimTemplates` of a stateful set.  No decision depends on them,
and decoding drops them, for `Codec.record` ignores a member that its shape does not name.  So what
is proved of workloads is about the members that the records of this and the imported modules keep:
a workload is read back from what is written of it (`decode_encode`), and a document that is read
and written again is the same only as far as it consists of these members.
-/

namespace TracingSidecar

inductive WorkloadKind where
  | pod | deployment | statefulSet | daemonSet
  deriving DecidableEq, Repr

namespace WorkloadKind

def name : WorkloadKind → String
  | .pod => "Pod"
  | .deployment => "Deployment"
  | .statefulSet => "StatefulSet"
  | .daemonSet => "DaemonSet"

def ofName? : String → Option WorkloadKind
  | "Pod" => some .pod
  | "Deployment" => some .deployment
  | "StatefulSet" => some .statefulSet
  | "DaemonSet" => some .daemonSet
  | _ => none

/-- The key of the agent tag that names a workload of this kind; pods are named by another tag. -/
def nameTag? : WorkloadKind → Option String
  | .pod => none
  | .deployment => some "deployment.name"
  | .statefulSet => some "statefulset.name"
  | .daemonSet => some "daemonset.name"

end WorkloadKind

/-- What a deployment says besides its template. -/
structure DeploymentSettings where
  minReadySeconds : Option Int32 := none
  paused : Option Bool := none
  progressDeadlineSeconds : Option Int32 := none
  replicas : Option Int32 := none
  revisionHistoryLimit : Option Int32 := none
  selector : LabelSelector := {}
  deriving DecidableEq, Inhabited

/-- What a stateful set says besides its template. -/
structure StatefulSetSettings where
  podManagementPolicy : Option String := none
  replicas : Option Int32 := none
  selector : LabelSelector := {}
  serviceName : String := ""
  deriving DecidableEq, Inhabited

/-- What a daemon set says besides its template. -/
structure DaemonSetSettings where
  minReadySeconds : Option Int32 := none
  revisionHistoryLimit : Option Int32 := none
  selector : LabelSelector := {}
  deriving DecidableEq, Inhabited

/-- The specification of a workload whose pods are stamped from a template. -/
structure Stamped (σ : Type) where
  settings : σ
  template : PodTemplate := {}
  deriving DecidableEq, Inhabited

/-- The part of a workload that depends on its kind. -/
inductive WorkloadBody where
  | pod (spec : Option PodSpec)
  | deployment (spec : Option (Stamped DeploymentSettings))
  | statefulSet (spec : Option (Stamped StatefulSetSettings))
  | daemonSet (spec : Option (Stamped DaemonSetSettings))
  deriving DecidableEq

structure Workload where
  metadata : ObjectMeta := {}
  body : WorkloadBody
  deriving DecidableEq

namespace Stamped

variable {σ : Type} [Inhabited σ]

/-- Change the template of a specification, which is created if there is none. -/
def modifyTemplate (f : PodTemplate → PodTemplate) (spec : Option (Stamped σ)) :
    Option (Stamped σ) :=
  let spec := spec.getD default
  some { spec with template := f spec.template }

end Stamped

namespace PodTemplate

def modifyMetadata (f : ObjectMeta → ObjectMeta) (template : PodTemplate) : PodTemplate :=
  { template with metadata := some (f (template.metadata.getD {})) }

def modifySpec (f : PodSpec → PodSpec) (template : PodTemplate) : PodTemplate :=
  { template with spec := some (f (template.spec.getD {})) }

end PodTemplate

namespace Workload

def kind (w : Workload) : WorkloadKind :=
  match w.body with
  | .pod _ => .pod
  | .deployment _ => .deployment
  | .statefulSet _ => .statefulSet
  | .daemonSet _ => .daemonSet

def anyName (w : Workload) : String := w.metadata.anyName

/-- The template that a controller stamps pods from. -/
def template? (w : Workload) : Option PodTemplate :=
  match w.body with
  | .pod _ => none
  | .deployment spec => spec.map (·.template)
  | .statefulSet spec => spec.map (·.template)
  | .daemonSet spec => spec.map (·.template)

/-- The metadata of the workload's pods. -/
def templateMetadata? (w : Workload) : Option ObjectMeta :=
  match w.body with
  | .pod _ => some w.metadata
  | _ => w.template?.bind (·.metadata)

/-- The specification of the workload's pods. -/
def podSpec? (w : Workload) : Option PodSpec :=
  match w.body with
  | .pod spec => spec
  | _ => w.template?.bind (·.spec)

/-- The containers of the workload's pods. -/
def containers (w : Workload) : List Container := (w.podSpec?.map (·.containers)).getD []

def modifyMetadata (f : ObjectMeta → ObjectMeta) (w : Workload) : Workload :=
  { w with metadata := f w.metadata }

/-- Change the metadata of the workload's pods, created if there is none. -/
def modifyTemplateMetadata (f : ObjectMeta → ObjectMeta) (w : Workload) : Workload :=
  match w.body with
  | .pod _ => w.modifyMetadata f
  | .deployment spec =>
      { w with body := .deployment (Stamped.modifyTemplate (·.modifyMetadata f) spec) }
  | .statefulSet spec =>
      { w with body := .statefulSet (Stamped.modifyTemplate (·.modifyMetadata f) spec) }
  | .daemonSet spec =>
      { w with body := .daemonSet (Stamped.modifyTemplate (·.modifyMetadata f) spec) }

/-- Change the specification of the workload's pods, created if there is none. -/
def modifyPodSpec (f : PodSpec → PodSpec) (w : Workload) : Workload :=
  match w.body with
  | .pod spec => { w with body := .pod (some (f (spec.getD {}))) }
  | .deployment spec =>
      { w with body := .deployment (Stamped.modifyTemplate (·.modifySpec f) spec) }
  | .statefulSet spec =>
      { w with body := .statefulSet (Stamped.modifyTemplate (·.modifySpec f) spec) }
  | .daemonSet spec =>
      { w with body := .daemonSet (Stamped.modifyTemplate (·.modifySpec f) spec) }

/-- Whether a controller made the workload from another workload's template.  Only pods are looked
at: such a pod gets its sidecar through the template. -/
def isControlled (w : Workload) : Bool :=
  match w.body with
  | .pod _ => w.metadata.isControlled
  | _ => false

/-! ### What the modifications change -/

@[simp] theorem podSpec?_modifyPodSpec (f : PodSpec → PodSpec) (w : Workload) :
    (w.modifyPodSpec f).podSpec? = some (f (w.podSpec?.getD {})) := by
  obtain ⟨metadata, body⟩ := w
  rcases body with spec | spec | spec | spec <;> cases spec <;> rfl

@[simp] theorem templateMetadata?_modifyPodSpec (f : PodSpec → PodSpec) (w : Workload) :
    (w.modifyPodSpec f).templateMetadata? = w.templateMetadata? := by
  obtain ⟨metadata, body⟩ := w
  rcases body with spec | spec | spec | spec <;> cases spec <;> rfl

@[simp] theorem metadata_modifyPodSpec (f : PodSpec → PodSpec) (w : Workload) :
    (w.modifyPodSpec f).metadata = w.metadata := by
  obtain ⟨metadata, body⟩ := w
  cases body <;> rfl

@[simp] theorem kind_modifyPodSpec (f : PodSpec → PodSpec) (w : Workload) :
    (w.modifyPodSpec f).kind = w.kind := by
  obtain ⟨metadata, body⟩ := w
  cases body <;> rfl

@[simp] theorem templateMetadata?_modifyTemplateMetadata (f : ObjectMeta → ObjectMeta)
    (w : Workload) :
    (w.modifyTemplateMetadata f).templateMetadata? = some (f (w.templateMetadata?.getD {})) := by
  obtain ⟨metadata, body⟩ := w
  rcases body with spec | spec | spec | spec <;> cases spec <;> rfl

@[simp] theorem podSpec?_modifyTemplateMetadata (f : ObjectMeta → ObjectMeta) (w : Workload) :
    (w.modifyTemplateMetadata f).podSpec? = w.podSpec? := by
  obtain ⟨metadata, body⟩ := w
  rcases body with spec | spec | spec | spec <;> cases spec <;> rfl

@[simp] theorem kind_modifyTemplateMetadata (f : ObjectMeta → ObjectMeta) (w : Workload) :
    (w.modifyTemplateMetadata f).kind = w.kind := by
  obtain ⟨metadata, body⟩ := w
  cases body <;> rfl

@[simp] theorem podSpec?_modifyMetadata (f : ObjectMeta → ObjectMeta) (w : Workload) :
    (w.modifyMetadata f).podSpec? = w.podSpec? := rfl

@[simp] theorem kind_modifyMetadata (f : ObjectMeta → ObjectMeta) (w : Workload) :
    (w.modifyMetadata f).kind = w.kind := rfl

/-! ### Written form -/

/-- The codec of a kind of object with a specification. -/
def codecOf {σ : Type} (apiVersion kind : String) (spec : Codec σ) :
    Codec (ObjectMeta × Option σ) :=
  .record
    (.cons "apiVersion" (.constant apiVersion) <|
      .cons "kind" (.constant kind) <|
      .cons "metadata" (.orZero ObjectMeta.codec {}) <|
      .cons "spec" (.optional spec) .nil)
    (show Shape.ascending ["apiVersion", "kind", "metadata", "spec"] = true by decide)
    (fun ((), (), metadata, spec, ()) => (metadata, spec))
    (fun o => ((), (), o.1, o.2, ()))
    (fun _ => rfl)

def deploymentCodec : Codec (Stamped DeploymentSettings) :=
  .record
    (.cons "minReadySeconds" (.optional .int32) <|
      .cons "paused" (.optional .bool) <|
      .cons "progressDeadlineSeconds" (.optional .int32) <|
      .cons "replicas" (.optional .int32) <|
      .cons "revisionHistoryLimit" (.optional .int32) <|
      .cons "selector" (.orZero LabelSelector.codec {}) <|
      .cons "template" (.orZero PodTemplate.codec {}) .nil)
    (by decide)
    (fun (minReadySeconds, paused, progressDeadlineSeconds, replicas, revisionHistoryLimit,
        selector, template, ()) =>
      { settings := { minReadySeconds, paused, progressDeadlineSeconds, replicas,
                      revisionHistoryLimit, selector }
        template })
    (fun ⟨s, template⟩ => (s.minReadySeconds, s.paused, s.progressDeadlineSeconds, s.replicas,
      s.revisionHistoryLimit, s.selector, template, ()))
    (fun _ => rfl)

def statefulSetCodec : Codec (Stamped StatefulSetSettings) :=
  .record
    (.cons "podManagementPolicy" (.optional .string) <|
      .cons "replicas" (.optional .int32) <|
      .cons "selector" (.orZero LabelSelector.codec {}) <|
      .cons "serviceName" (.orZero .string "") <|
      .cons "template" (.orZero PodTemplate.codec {}) .nil)
    (by decide)
    (fun (podManagementPolicy, replicas, selector, serviceName, template, ()) =>
      { settings := { podManagementPolicy, replicas, selector, serviceName }, template })
    (fun ⟨s, template⟩ =>
      (s.podManagementPolicy, s.replicas, s.selector, s.serviceName, template, ()))
    (fun _ => rfl)

def daemonSetCodec : Codec (Stamped DaemonSetSettings) :=
  .record
    (.cons "minReadySeconds" (.optional .int32) <|
      .cons "revisionHistoryLimit" (.optional .int32) <|
      .cons "selector" (.orZero LabelSelector.codec {}) <|
      .cons "template" (.orZero PodTemplate.codec {}) .nil)
    (by decide)
    (fun (minReadySeconds, revisionHistoryLimit, selector, template, ()) =>
      { settings := { minReadySeconds, revisionHistoryLimit, selector }, template })
    (fun ⟨s, template⟩ => (s.minReadySeconds, s.revisionHistoryLimit, s.selector, template, ()))
    (fun _ => rfl)

def podObject : Codec (ObjectMeta × Option PodSpec) := codecOf "v1" "Pod" PodSpec.codec

def deploymentObject : Codec (ObjectMeta × Option (Stamped DeploymentSettings)) :=
  codecOf "apps/v1" "Deployment" deploymentCodec

def statefulSetObject : Codec (ObjectMeta × Option (Stamped StatefulSetSettings)) :=
  codecOf "apps/v1" "StatefulSet" statefulSetCodec

def daemonSetObject : Codec (ObjectMeta × Option (Stamped DaemonSetSettings)) :=
  codecOf "apps/v1" "DaemonSet" daemonSetCodec

end Workload

/-- The workloads of one kind. -/
abbrev WorkloadOf (kind : WorkloadKind) := { w : Workload // w.kind = kind }

namespace WorkloadBody

/-- The specification of a pod. -/
def podSpec? : WorkloadBody → Option PodSpec
  | .pod spec => spec
  | _ => none

/-- The specification of a deployment. -/
def deploymentSpec? : WorkloadBody → Option (Stamped DeploymentSettings)
  | .deployment spec => spec
  | _ => none

/-- The specification of a stateful set. -/
def statefulSetSpec? : WorkloadBody → Option (Stamped StatefulSetSettings)
  | .statefulSet spec => spec
  | _ => none

/-- The specification of a daemon set. -/
def daemonSetSpec? : WorkloadBody → Option (Stamped DaemonSetSettings)
  | .daemonSet spec => spec
  | _ => none

end WorkloadBody

/-- The codec of the workloads of a kind. -/
def WorkloadOf.codec : (kind : WorkloadKind) → Codec (WorkloadOf kind)
  | .pod =>
      Workload.podObject.iso (fun o => ⟨⟨o.1, .pod o.2⟩, rfl⟩)
        (fun w => (w.val.metadata, w.val.body.podSpec?))
        (by rintro ⟨⟨_, _ | _ | _ | _⟩, h⟩ <;> first | rfl | cases h)
  | .deployment =>
      Workload.deploymentObject.iso (fun o => ⟨⟨o.1, .deployment o.2⟩, rfl⟩)
        (fun w => (w.val.metadata, w.val.body.deploymentSpec?))
        (by rintro ⟨⟨_, _ | _ | _ | _⟩, h⟩ <;> first | rfl | cases h)
  | .statefulSet =>
      Workload.statefulSetObject.iso (fun o => ⟨⟨o.1, .statefulSet o.2⟩, rfl⟩)
        (fun w => (w.val.metadata, w.val.body.statefulSetSpec?))
        (by rintro ⟨⟨_, _ | _ | _ | _⟩, h⟩ <;> first | rfl | cases h)
  | .daemonSet =>
      Workload.daemonSetObject.iso (fun o => ⟨⟨o.1, .daemonSet o.2⟩, rfl⟩)
        (fun w => (w.val.metadata, w.val.body.daemonSetSpec?))
        (by rintro ⟨⟨_, _ | _ | _ | _⟩, h⟩ <;> first | rfl | cases h)

namespace Workload

/-- The written form of a workload. -/
def encode (w : Workload) : Json := (WorkloadOf.codec w.kind).encode ⟨w, rfl⟩

/-- The workload of a known kind that is written somewhere. -/
def decode (kind : WorkloadKind) (json : Json) : Option Workload :=
  ((WorkloadOf.codec kind).decode json).map (·.val)

/-- Reading the written form gives the workload back. -/
theorem decode_encode (w : Workload) : decode w.kind w.encode = some w := by
  simp [decode, encode]

end Workload

end TracingSidecar
