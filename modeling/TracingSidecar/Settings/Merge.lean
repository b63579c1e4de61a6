import TracingSidecar.Settings.Basic

/-!
# Merging settings

Fragments are merged most specific first.  A key of a map, a claim list or an optional value comes
from the first fragment that has it, a service account from the first that names one; volumes,
mounts and pull secrets are joined and of several with one name the first is kept; tolerations are
joined.
-/

namespace TracingSidecar

/-- Of several items with one name the first. -/
def distinctBy {α : Type} (name : α → String) : List α → List α
  | [] => []
  | item :: rest => item :: (distinctBy name rest).filter fun other => name other != name item

def distinctVolumes (volumes : List Volume) : List Volume := distinctBy (·.name) volumes

def distinctMounts (mounts : List VolumeMount) : List VolumeMount := distinctBy (·.name) mounts

def distinctSecrets (secrets : List LocalReference) : List LocalReference :=
  distinctBy (·.name) secrets

namespace ResourceRequirements

/-- Add the quantities whose keys are not in use.  A map that is there stays there, if an empty
one. -/
def fillQuantities (quantities more : Option (SortedMap String)) : Option (SortedMap String) :=
  match more with
  | none => quantities
  | some more => some ((quantities.getD ∅).fill more.entries)

/-- Fill the gaps of requirements from less specific ones. -/
def fill (target source : ResourceRequirements) : ResourceRequirements where
  claims := target.claims.or source.claims
  limits := fillQuantities target.limits source.limits
  requests := fillQuantities target.requests source.requests

end ResourceRequirements

namespace Settings

/-- The requirements of all fragments together; requirements that say nothing are none. -/
def mergedResources (fragments : List Settings) : Option ResourceRequirements :=
  let merged := (fragments.filterMap (·.resources)).foldl (·.fill ·) {}
  if merged = {} then none else some merged

/-- The service account of the next fragment replaces one that is absent or empty. -/
def mergedServiceAccount (fragments : List Settings) : Option String :=
  fragments.foldl (fun account f => if account.getD "" = "" then f.serviceAccount else account) none

/-- Merge fragments, the most specific first. -/
def merge (fragments : List Settings) : Settings where
  affinity := fragments.findSome? (·.affinity)
  annotations := fragments.foldl (fun m f => m.fill f.annotations.entries) ∅
  containerSecurityContext := fragments.findSome? (·.containerSecurityContext)
  imagePullSecrets := distinctSecrets (fragments.flatMap (·.imagePullSecrets))
  labels := fragments.foldl (fun m f => m.fill f.labels.entries) ∅
  resources := mergedResources fragments
  securityContext := fragments.findSome? (·.securityContext)
  serviceAccount := mergedServiceAccount fragments
  tolerations := fragments.flatMap (·.tolerations)
  volumeMounts := distinctMounts (fragments.flatMap (·.volumeMounts))
  volumes := distinctVolumes (fragments.flatMap (·.volumes))

end Settings

end TracingSidecar
