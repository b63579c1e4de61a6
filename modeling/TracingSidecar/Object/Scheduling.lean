import TracingSidecar.Json.Record

/-!
# Scheduling

Where a pod may run: tolerated taints and required node properties; and the security settings that
all containers of a pod share.

An affinity is kept as far as it requires something of nodes.  `podAffinity`, `podAntiAffinity`,
`preferredDuringSchedulingIgnoredDuringExecution` and `matchFields` are left out, as are
`appArmorProfile`, `fsGroupChangePolicy`, `seLinuxOptions`, `seccompProfile`, `sysctls` and
`windowsOptions` of the security settings.  An affinity or a security context is chosen as a whole
or not at all; decoding drops what is left out of it.
-/

namespace TracingSidecar

/-- A taint that a pod puts up with. -/
structure Toleration where
  effect : Option String := none
  key : Option String := none
  operator : Option String := none
  tolerationSeconds : Option Int64 := none
  value : Option String := none
  deriving DecidableEq

def Toleration.codec : Codec Toleration :=
  .record
    (.cons "effect" (.optional .string) <|
      .cons "key" (.optional .string) <|
      .cons "operator" (.optional .string) <|
      .cons "tolerationSeconds" (.optional .int64) <|
      .cons "value" (.optional .string) .nil)
    (by decide)
    (fun (effect, key, operator, tolerationSeconds, value, ()) =>
      { effect, key, operator, tolerationSeconds, value })
    (fun t => (t.effect, t.key, t.operator, t.tolerationSeconds, t.value, ()))
    (fun _ => rfl)

/-- A condition on one label of a node. -/
structure NodeRequirement where
  key : String := ""
  operator : String := ""
  values : Option (List String) := none
  deriving DecidableEq

def NodeRequirement.codec : Codec NodeRequirement :=
  .record
    (.cons "key" (.orZero .string "") <|
      .cons "operator" (.orZero .string "") <|
      .cons "values" (.optional (.list .string)) .nil)
    (by decide)
    (fun (key, operator, values, ()) => { key, operator, values })
    (fun r => (r.key, r.operator, r.values, ()))
    (fun _ => rfl)

structure NodeSelectorTerm where
  matchExpressions : Option (List NodeRequirement) := none
  deriving DecidableEq

def NodeSelectorTerm.codec : Codec NodeSelectorTerm :=
  .record (.cons "matchExpressions" (.optional (.list NodeRequirement.codec)) .nil) (by decide)
    (fun (matchExpressions, ()) => { matchExpressions })
    (fun t => (t.matchExpressions, ())) (fun _ => rfl)

structure NodeSelector where
  nodeSelectorTerms : List NodeSelectorTerm := []
  deriving DecidableEq

def NodeSelector.codec : Codec NodeSelector :=
  .record (.cons "nodeSelectorTerms" (.orZero (.list NodeSelectorTerm.codec) []) .nil) (by decide)
    (fun (nodeSelectorTerms, ()) => { nodeSelectorTerms })
    (fun s => (s.nodeSelectorTerms, ())) (fun _ => rfl)

structure NodeAffinity where
  required : Option NodeSelector := none
  deriving DecidableEq

def NodeAffinity.codec : Codec NodeAffinity :=
  .record
    (.cons "requiredDuringSchedulingIgnoredDuringExecution" (.optional NodeSelector.codec) .nil)
    (by decide)
    (fun (required, ()) => { required })
    (fun a => (a.required, ())) (fun _ => rfl)

/-- Which nodes a pod wants to run on. -/
structure Affinity where
  nodeAffinity : Option NodeAffinity := none
  deriving DecidableEq

def Affinity.codec : Codec Affinity :=
  .record (.cons "nodeAffinity" (.optional NodeAffinity.codec) .nil) (by decide)
    (fun (nodeAffinity, ()) => { nodeAffinity })
    (fun a => (a.nodeAffinity, ())) (fun _ => rfl)

/-- Security settings of all containers of a pod. -/
structure PodSecurityContext where
  fsGroup : Option Int64 := none
  runAsGroup : Option Int64 := none
  runAsNonRoot : Option Bool := none
  runAsUser : Option Int64 := none
  supplementalGroups : Option (List Int64) := none
  deriving DecidableEq

def PodSecurityContext.codec : Codec PodSecurityContext :=
  .record
    (.cons "fsGroup" (.optional .int64) <|
      .cons "runAsGroup" (.optional .int64) <|
      .cons "runAsNonRoot" (.optional .bool) <|
      .cons "runAsUser" (.optional .int64) <|
      .cons "supplementalGroups" (.optional (.list .int64)) .nil)
    (by decide)
    (fun (fsGroup, runAsGroup, runAsNonRoot, runAsUser, supplementalGroups, ()) =>
      { fsGroup, runAsGroup, runAsNonRoot, runAsUser, supplementalGroups })
    (fun s => (s.fsGroup, s.runAsGroup, s.runAsNonRoot, s.runAsUser, s.supplementalGroups, ()))
    (fun _ => rfl)

end TracingSidecar
