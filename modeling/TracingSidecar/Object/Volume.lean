import TracingSidecar.Json.Record

/-!
# Volumes

Volumes of a pod, the mounts that refer to them by name, and the other references by name.

Of the sources of a volume the records keep `configMap`, `emptyDir`, `hostPath` and `secret`.  The
other sources of Kubernetes (`persistentVolumeClaim`, `projected`, `downwardAPI`, `ephemeral`,
`csi`, `nfs`, `iscsi`, `fc`, `gitRepo` and those of single vendors) are left out, and so are
`mountPropagation`, `recursiveReadOnly` and `subPathExpr` of a mount.  Volumes and mounts are told
apart by their names and moved as wholes, so nothing reads these members: decoding drops them, and a
volume with such a source is decoded to its name.
-/

namespace TracingSidecar

/-- One key of a configuration map or secret, and the file it becomes. -/
structure KeyToPath where
  key : String := ""
  mode : Option Int32 := none
  path : String := ""
  deriving DecidableEq

def KeyToPath.codec : Codec KeyToPath :=
  .record
    (.cons "key" (.orZero .string "") <|
      .cons "mode" (.optional .int32) <|
      .cons "path" (.orZero .string "") .nil)
    (by decide)
    (fun (key, mode, path, ()) => { key, mode, path })
    (fun k => (k.key, k.mode, k.path, ()))
    (fun _ => rfl)

structure ConfigMapVolume where
  defaultMode : Option Int32 := none
  items : Option (List KeyToPath) := none
  name : String := ""
  isOptional : Option Bool := none
  deriving DecidableEq

def ConfigMapVolume.codec : Codec ConfigMapVolume :=
  .record
    (.cons "defaultMode" (.optional .int32) <|
      .cons "items" (.optional (.list KeyToPath.codec)) <|
      .cons "name" (.orZero .string "") <|
      .cons "optional" (.optional .bool) .nil)
    (by decide)
    (fun (defaultMode, items, name, isOptional, ()) => { defaultMode, items, name, isOptional })
    (fun v => (v.defaultMode, v.items, v.name, v.isOptional, ()))
    (fun _ => rfl)

structure SecretVolume where
  defaultMode : Option Int32 := none
  items : Option (List KeyToPath) := none
  isOptional : Option Bool := none
  secretName : Option String := none
  deriving DecidableEq

def SecretVolume.codec : Codec SecretVolume :=
  .record
    (.cons "defaultMode" (.optional .int32) <|
      .cons "items" (.optional (.list KeyToPath.codec)) <|
      .cons "optional" (.optional .bool) <|
      .cons "secretName" (.optional .string) .nil)
    (by decide)
    (fun (defaultMode, items, isOptional, secretName, ()) =>
      { defaultMode, items, isOptional, secretName })
    (fun v => (v.defaultMode, v.items, v.isOptional, v.secretName, ()))
    (fun _ => rfl)

structure EmptyDirVolume where
  medium : Option String := none
  sizeLimit : Option String := none
  deriving DecidableEq

def EmptyDirVolume.codec : Codec EmptyDirVolume :=
  .record
    (.cons "medium" (.optional .string) <| .cons "sizeLimit" (.optional .string) .nil)
    (by decide)
    (fun (medium, sizeLimit, ()) => { medium, sizeLimit })
    (fun v => (v.medium, v.sizeLimit, ()))
    (fun _ => rfl)

structure HostPathVolume where
  path : String := ""
  type : Option String := none
  deriving DecidableEq

def HostPathVolume.codec : Codec HostPathVolume :=
  .record
    (.cons "path" (.orZero .string "") <| .cons "type" (.optional .string) .nil)
    (by decide)
    (fun (path, type, ()) => { path, type })
    (fun v => (v.path, v.type, ()))
    (fun _ => rfl)

/-- A named volume of a pod. -/
structure Volume where
  configMap : Option ConfigMapVolume := none
  emptyDir : Option EmptyDirVolume := none
  hostPath : Option HostPathVolume := none
  name : String := ""
  secret : Option SecretVolume := none
  deriving DecidableEq

def Volume.codec : Codec Volume :=
  .record
    (.cons "configMap" (.optional ConfigMapVolume.codec) <|
      .cons "emptyDir" (.optional EmptyDirVolume.codec) <|
      .cons "hostPath" (.optional HostPathVolume.codec) <|
      .cons "name" (.orZero .string "") <|
      .cons "secret" (.optional SecretVolume.codec) .nil)
    (by decide)
    (fun (configMap, emptyDir, hostPath, name, secret, ()) =>
      { configMap, emptyDir, hostPath, name, secret })
    (fun v => (v.configMap, v.emptyDir, v.hostPath, v.name, v.secret, ()))
    (fun _ => rfl)

/-- A volume that shows one key of the configuration map of the same name as a file. -/
def Volume.ofConfigMap (name key path : String) : Volume :=
  { name, configMap := some { name, items := some [{ key, path }] } }

/-- Where a container sees a volume. -/
structure VolumeMount where
  mountPath : String := ""
  name : String := ""
  readOnly : Option Bool := none
  subPath : Option String := none
  deriving DecidableEq

def VolumeMount.codec : Codec VolumeMount :=
  .record
    (.cons "mountPath" (.orZero .string "") <|
      .cons "name" (.orZero .string "") <|
      .cons "readOnly" (.optional .bool) <|
      .cons "subPath" (.optional .string) .nil)
    (by decide)
    (fun (mountPath, name, readOnly, subPath, ()) => { mountPath, name, readOnly, subPath })
    (fun m => (m.mountPath, m.name, m.readOnly, m.subPath, ()))
    (fun _ => rfl)

/-- A mount that cannot be written to. -/
def VolumeMount.readOnlyAt (name mountPath : String) : VolumeMount :=
  { name, mountPath, readOnly := some true }

/-- The name of an object in the same namespace. -/
structure LocalReference where
  name : String := ""
  deriving DecidableEq

def LocalReference.codec : Codec LocalReference := .named .mk (·.name) fun _ => rfl

end TracingSidecar
