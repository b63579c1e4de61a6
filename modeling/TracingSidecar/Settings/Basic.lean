import TracingSidecar.Object.Pod

/-!
# Settings fragments

Settings that an instance gives for itself as a whole and again for its agent.  Written down, an
empty map or list is left out, and null stands for no value only where a value is optional.  A
fragment that stands alone may also be given as the list of its values.
-/

namespace TracingSidecar

structure Settings where
  affinity : Option Affinity := none
  annotations : SortedMap String := ∅
  containerSecurityContext : Option SecurityContext := none
  imagePullSecrets : List LocalReference := []
  labels : SortedMap String := ∅
  resources : Option ResourceRequirements := none
  securityContext : Option PodSecurityContext := none
  serviceAccount : Option String := none
  tolerations : List Toleration := []
  volumeMounts : List VolumeMount := []
  volumes : List Volume := []
  deriving DecidableEq, Inhabited

namespace Settings

/-- The order of the values in a fragment that is given as a list. -/
def row : List String :=
  ["annotations", "labels", "volumes", "volumeMounts", "resources", "affinity", "tolerations",
    "securityContext", "containerSecurityContext", "serviceAccount", "imagePullSecrets"]

def codec : Codec Settings :=
  .recordOrRow row 0
    (.cons "affinity" (.optional Affinity.codec) <|
      .cons "annotations" (.unlessEmpty (.map .string) ∅) <|
      .cons "containerSecurityContext" (.optional SecurityContext.codec) <|
      .cons "imagePullSecrets" (.unlessEmpty (.list LocalReference.codec) []) <|
      .cons "labels" (.unlessEmpty (.map .string) ∅) <|
      .cons "resources" (.optional ResourceRequirements.codec) <|
      .cons "securityContext" (.optional PodSecurityContext.codec) <|
      .cons "serviceAccount" (.optional .string) <|
      .cons "tolerations" (.unlessEmpty (.list Toleration.codec) []) <|
      .cons "volumeMounts" (.unlessEmpty (.list VolumeMount.codec) []) <|
      .cons "volumes" (.unlessEmpty (.list Volume.codec) []) .nil)
    (by decide)
    (fun (affinity, annotations, containerSecurityContext, imagePullSecrets, labels, resources,
        securityContext, serviceAccount, tolerations, volumeMounts, volumes, ()) =>
      { affinity, annotations, containerSecurityContext, imagePullSecrets, labels, resources,
        securityContext, serviceAccount, tolerations, volumeMounts, volumes })
    (fun s => (s.affinity, s.annotations, s.containerSecurityContext, s.imagePullSecrets, s.labels,
      s.resources, s.securityContext, s.serviceAccount, s.tolerations, s.volumeMounts, s.volumes,
      ()))
    (fun _ => rfl)

end Settings

end TracingSidecar
