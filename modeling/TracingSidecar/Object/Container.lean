import TracingSidecar.Object.Volume

/-!
# Containers

The containers of a pod with their environment, ports, resources and security settings.

Left out are, of a container, `envFrom`, `livenessProbe`, `readinessProbe`, `startupProbe`,
`lifecycle`, `resizePolicy`, `restartPolicy`, `stdinOnce`, `tty` and `volumeDevices`; of the sources
of a variable, `resourceFieldRef`; of the security settings, `appArmorProfile`, `procMount`,
`seLinuxOptions`, `seccompProfile` and `windowsOptions`.  Nothing reads them, and decoding drops
them.
-/

namespace TracingSidecar

/-- A key of a named configuration map or secret. -/
structure KeySelector where
  key : String := ""
  name : String := ""
  isOptional : Option Bool := none
  deriving DecidableEq

def KeySelector.codec : Codec KeySelector :=
  .record
    (.cons "key" (.orZero .string "") <|
      .cons "name" (.orZero .string "") <|
      .cons "optional" (.optional .bool) .nil)
    (by decide)
    (fun (key, name, isOptional, ()) => { key, name, isOptional })
    (fun s => (s.key, s.name, s.isOptional, ()))
    (fun _ => rfl)

/-- A field of the pod itself. -/
structure FieldSelector where
  apiVersion : Option String := none
  fieldPath : String := ""
  deriving DecidableEq

def FieldSelector.codec : Codec FieldSelector :=
  .record
    (.cons "apiVersion" (.optional .string) <| .cons "fieldPath" (.orZero .string "") .nil)
    (by decide)
    (fun (apiVersion, fieldPath, ()) => { apiVersion, fieldPath })
    (fun s => (s.apiVersion, s.fieldPath, ()))
    (fun _ => rfl)

/-- Where the value of an environment variable is taken from. -/
structure EnvSource where
  configMapKeyRef : Option KeySelector := none
  fieldRef : Option FieldSelector := none
  secretKeyRef : Option KeySelector := none
  deriving DecidableEq

def EnvSource.codec : Codec EnvSource :=
  .record
    (.cons "configMapKeyRef" (.optional KeySelector.codec) <|
      .cons "fieldRef" (.optional FieldSelector.codec) <|
      .cons "secretKeyRef" (.optional KeySelector.codec) .nil)
    (by decide)
    (fun (configMapKeyRef, fieldRef, secretKeyRef, ()) =>
      { configMapKeyRef, fieldRef, secretKeyRef })
    (fun s => (s.configMapKeyRef, s.fieldRef, s.secretKeyRef, ()))
    (fun _ => rfl)

/-- An environment variable. -/
structure EnvVar where
  name : String := ""
  value : Option String := none
  valueFrom : Option EnvSource := none
  deriving DecidableEq

namespace EnvVar

def codec : Codec EnvVar :=
  .record
    (.cons "name" (.orZero .string "") <|
      .cons "value" (.optional .string) <|
      .cons "valueFrom" (.optional EnvSource.codec) .nil)
    (by decide)
    (fun (name, value, valueFrom, ()) => { name, value, valueFrom })
    (fun e => (e.name, e.value, e.valueFrom, ()))
    (fun _ => rfl)

/-- A variable with a fixed value. -/
def ofText (name value : String) : EnvVar := { name, value := some value }

/-- A variable with the value of a field of the pod. -/
def ofField (name fieldPath : String) : EnvVar :=
  { name, valueFrom := some { fieldRef := some { apiVersion := some "v1", fieldPath } } }

end EnvVar

/-- A port that a container listens on. -/
structure ContainerPort where
  containerPort : Int32 := 0
  hostIP : Option String := none
  hostPort : Option Int32 := none
  name : Option String := none
  protocol : Option String := none
  deriving DecidableEq

def ContainerPort.codec : Codec ContainerPort :=
  .record
    (.cons "containerPort" (.orZero .int32 0) <|
      .cons "hostIP" (.optional .string) <|
      .cons "hostPort" (.optional .int32) <|
      .cons "name" (.optional .string) <|
      .cons "protocol" (.optional .string) .nil)
    (by decide)
    (fun (containerPort, hostIP, hostPort, name, protocol, ()) =>
      { containerPort, hostIP, hostPort, name, protocol })
    (fun p => (p.containerPort, p.hostIP, p.hostPort, p.name, p.protocol, ()))
    (fun _ => rfl)

structure ResourceClaim where
  name : String := ""
  deriving DecidableEq

def ResourceClaim.codec : Codec ResourceClaim := .named .mk (·.name) fun _ => rfl

/-- What a container may use and is promised. -/
structure ResourceRequirements where
  claims : Option (List ResourceClaim) := none
  limits : Option (SortedMap String) := none
  requests : Option (SortedMap String) := none
  deriving DecidableEq

def ResourceRequirements.codec : Codec ResourceRequirements :=
  .record
    (.cons "claims" (.optional (.list ResourceClaim.codec)) <|
      .cons "limits" (.optional (.map .string)) <|
      .cons "requests" (.optional (.map .string)) .nil)
    (by decide)
    (fun (claims, limits, requests, ()) => { claims, limits, requests })
    (fun r => (r.claims, r.limits, r.requests, ()))
    (fun _ => rfl)

structure Capabilities where
  add : Option (List String) := none
  drop : Option (List String) := none
  deriving DecidableEq

def Capabilities.codec : Codec Capabilities :=
  .record
    (.cons "add" (.optional (.list .string)) <| .cons "drop" (.optional (.list .string)) .nil)
    (by decide)
    (fun (add, drop, ()) => { add, drop })
    (fun c => (c.add, c.drop, ()))
    (fun _ => rfl)

/-- Security settings of one container. -/
structure SecurityContext where
  allowPrivilegeEscalation : Option Bool := none
  capabilities : Option Capabilities := none
  privileged : Option Bool := none
  readOnlyRootFilesystem : Option Bool := none
  runAsGroup : Option Int64 := none
  runAsNonRoot : Option Bool := none
  runAsUser : Option Int64 := none
  deriving DecidableEq

def SecurityContext.codec : Codec SecurityContext :=
  .record
    (.cons "allowPrivilegeEscalation" (.optional .bool) <|
      .cons "capabilities" (.optional Capabilities.codec) <|
      .cons "privileged" (.optional .bool) <|
      .cons "readOnlyRootFilesystem" (.optional .bool) <|
      .cons "runAsGroup" (.optional .int64) <|
      .cons "runAsNonRoot" (.optional .bool) <|
      .cons "runAsUser" (.optional .int64) .nil)
    (by decide)
    (fun (allowPrivilegeEscalation, capabilities, privileged, readOnlyRootFilesystem, runAsGroup,
        runAsNonRoot, runAsUser, ()) =>
      { allowPrivilegeEscalation, capabilities, privileged, readOnlyRootFilesystem, runAsGroup,
        runAsNonRoot, runAsUser })
    (fun s => (s.allowPrivilegeEscalation, s.capabilities, s.privileged, s.readOnlyRootFilesystem,
      s.runAsGroup, s.runAsNonRoot, s.runAsUser, ()))
    (fun _ => rfl)

/-- A container of a pod. -/
structure Container where
  args : Option (List String) := none
  command : Option (List String) := none
  env : Option (List EnvVar) := none
  image : Option String := none
  imagePullPolicy : Option String := none
  name : String := ""
  ports : Option (List ContainerPort) := none
  resources : Option ResourceRequirements := none
  securityContext : Option SecurityContext := none
  stdin : Option Bool := none
  terminationMessagePath : Option String := none
  terminationMessagePolicy : Option String := none
  volumeMounts : Option (List VolumeMount) := none
  workingDir : Option String := none
  deriving DecidableEq

def Container.codec : Codec Container :=
  .record
    (.cons "args" (.optional (.list .string)) <|
      .cons "command" (.optional (.list .string)) <|
      .cons "env" (.optional (.list EnvVar.codec)) <|
      .cons "image" (.optional .string) <|
      .cons "imagePullPolicy" (.optional .string) <|
      .cons "name" (.orZero .string "") <|
      .cons "ports" (.optional (.list ContainerPort.codec)) <|
      .cons "resources" (.optional ResourceRequirements.codec) <|
      .cons "securityContext" (.optional SecurityContext.codec) <|
      .cons "stdin" (.optional .bool) <|
      .cons "terminationMessagePath" (.optional .string) <|
      .cons "terminationMessagePolicy" (.optional .string) <|
      .cons "volumeMounts" (.optional (.list VolumeMount.codec)) <|
      .cons "workingDir" (.optional .string) .nil)
    (by decide)
    (fun (args, command, env, image, imagePullPolicy, name, ports, resources, securityContext,
        stdin, terminationMessagePath, terminationMessagePolicy, volumeMounts, workingDir, ()) =>
      { args, command, env, image, imagePullPolicy, name, ports, resources, securityContext,
        stdin, terminationMessagePath, terminationMessagePolicy, volumeMounts, workingDir })
    (fun c => (c.args, c.command, c.env, c.image, c.imagePullPolicy, c.name, c.ports, c.resources,
      c.securityContext, c.stdin, c.terminationMessagePath, c.terminationMessagePolicy,
      c.volumeMounts, c.workingDir, ()))
    (fun _ => rfl)

end TracingSidecar
