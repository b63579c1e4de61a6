import TracingSidecar.Object.Metadata
import TracingSidecar.Object.Container
import TracingSidecar.Object.Scheduling

/-!
# Pod specifications

What runs in a pod, and the template that a controller stamps pods from.

Of a pod specification the following are left out: `activeDeadlineSeconds`,
`automountServiceAccountToken`, `dnsConfig`, `enableServiceLinks`, `ephemeralContainers`,
`hostAliases`, `hostIPC`, `hostPID`, `hostUsers`, `hostname`, `os`, `overhead`, `preemptionPolicy`,
`priorityClassName`, `readinessGates`, `resourceClaims`, `runtimeClassName`, `schedulingGates`,
`setHostnameAsFQDN`, `shareProcessNamespace`, `subdomain` and `topologySpreadConstraints`; and of a
label selector, `matchExpressions`.  Nothing reads or changes them, and decoding drops them.
-/

namespace TracingSidecar

structure PodSpec where
  affinity : Option Affinity := none
  containers : List Container := []
  dnsPolicy : Option String := none
  hostNetwork : Option Bool := none
  imagePullSecrets : Option (List LocalReference) := none
  initContainers : Option (List Container) := none
  nodeName : Option String := none
  nodeSelector : Option (SortedMap String) := none
  priority : Option Int32 := none
  restartPolicy : Option String := none
  schedulerName : Option String := none
  securityContext : Option PodSecurityContext := none
  serviceAccount : Option String := none
  serviceAccountName : Option String := none
  terminationGracePeriodSeconds : Option Int64 := none
  tolerations : Option (List Toleration) := none
  volumes : Option (List Volume) := none
  deriving DecidableEq, Inhabited

def PodSpec.codec : Codec PodSpec :=
  .record
    (.cons "affinity" (.optional Affinity.codec) <|
      .cons "containers" (.orZero (.list Container.codec) []) <|
      .cons "dnsPolicy" (.optional .string) <|
      .cons "hostNetwork" (.optional .bool) <|
      .cons "imagePullSecrets" (.optional (.list LocalReference.codec)) <|
      .cons "initContainers" (.optional (.list Container.codec)) <|
      .cons "nodeName" (.optional .string) <|
      .cons "nodeSelector" (.optional (.map .string)) <|
      .cons "priority" (.optional .int32) <|
      .cons "restartPolicy" (.optional .string) <|
      .cons "schedulerName" (.optional .string) <|
      .cons "securityContext" (.optional PodSecurityContext.codec) <|
      .cons "serviceAccount" (.optional .string) <|
      .cons "serviceAccountName" (.optional .string) <|
      .cons "terminationGracePeriodSeconds" (.optional .int64) <|
      .cons "tolerations" (.optional (.list Toleration.codec)) <|
      .cons "volumes" (.optional (.list Volume.codec)) .nil)
    (by decide)
    (fun (affinity, containers, dnsPolicy, hostNetwork, imagePullSecrets, initContainers, nodeName,
        nodeSelector, priority, restartPolicy, schedulerName, securityContext, serviceAccount,
        serviceAccountName, terminationGracePeriodSeconds, tolerations, volumes, ()) =>
      { affinity, containers, dnsPolicy, hostNetwork, imagePullSecrets, initContainers, nodeName,
        nodeSelector, priority, restartPolicy, schedulerName, securityContext, serviceAccount,
        serviceAccountName, terminationGracePeriodSeconds, tolerations, volumes })
    (fun s => (s.affinity, s.containers, s.dnsPolicy, s.hostNetwork, s.imagePullSecrets,
      s.initContainers, s.nodeName, s.nodeSelector, s.priority, s.restartPolicy, s.schedulerName,
      s.securityContext, s.serviceAccount, s.serviceAccountName, s.terminationGracePeriodSeconds,
      s.tolerations, s.volumes, ()))
    (fun _ => rfl)

/-- What the pods of a workload look like. -/
structure PodTemplate where
  metadata : Option ObjectMeta := none
  spec : Option PodSpec := none
  deriving DecidableEq, Inhabited

def PodTemplate.codec : Codec PodTemplate :=
  .record
    (.cons "metadata" (.optional ObjectMeta.codec) <| .cons "spec" (.optional PodSpec.codec) .nil)
    (by decide)
    (fun (metadata, spec, ()) => { metadata, spec })
    (fun t => (t.metadata, t.spec, ()))
    (fun _ => rfl)

/-- Which pods belong to a workload. -/
structure LabelSelector where
  matchLabels : Option (SortedMap String) := none
  deriving DecidableEq, Inhabited

def LabelSelector.codec : Codec LabelSelector :=
  .record (.cons "matchLabels" (.optional (.map .string)) .nil) (by decide)
    (fun (matchLabels, ()) => { matchLabels }) (fun s => (s.matchLabels, ())) (fun _ => rfl)

end TracingSidecar
