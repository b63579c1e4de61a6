import TracingSidecar.Agent.Options
import TracingSidecar.Naming
import TracingSidecar.Object.Metadata
import TracingSidecar.Settings.Basic

/-!
# Tracing instances

An instance of the tracing backend, as the custom resource describes it: settings for the instance,
its agent with settings and options of its own, and how the query interface is protected.  The
records of the resource may also be given as lists of their members' values.
-/

namespace TracingSidecar

/-- The agent of an instance. -/
structure AgentSpec where
  settings : Settings := {}
  image : Option String := none
  options : Agent.Options := {}
  sidecarSecurityContext : Option SecurityContext := none
  deriving DecidableEq, Inhabited

def AgentSpec.codec : Codec AgentSpec :=
  .record
    (.cons "affinity" (.optional Affinity.codec) <|
      .cons "annotations" (.unlessEmpty (.map .string) ∅) <|
      .cons "containerSecurityContext" (.optional SecurityContext.codec) <|
      .cons "image" (.optional .string) <|
      .cons "imagePullSecrets" (.unlessEmpty (.list LocalReference.codec) []) <|
      .cons "labels" (.unlessEmpty (.map .string) ∅) <|
      .cons "options" (.unlessEmpty Agent.Options.codec {}) <|
      .cons "resources" (.optional ResourceRequirements.codec) <|
      .cons "securityContext" (.optional PodSecurityContext.codec) <|
      .cons "serviceAccount" (.optional .string) <|
      .cons "sidecarSecurityContext" (.optional SecurityContext.codec) <|
      .cons "tolerations" (.unlessEmpty (.list Toleration.codec) []) <|
      .cons "volumeMounts" (.unlessEmpty (.list VolumeMount.codec) []) <|
      .cons "volumes" (.unlessEmpty (.list Volume.codec) []) .nil)
    (by decide)
    (fun (affinity, annotations, containerSecurityContext, image, imagePullSecrets, labels,
        options, resources, securityContext, serviceAccount, sidecarSecurityContext, tolerations,
        volumeMounts, volumes, ()) =>
      { settings := { affinity, annotations, containerSecurityContext, imagePullSecrets, labels,
                      resources, securityContext, serviceAccount, tolerations, volumeMounts,
                      volumes }
        image, options, sidecarSecurityContext })
    (fun ⟨s, image, options, sidecarSecurityContext⟩ =>
      (s.affinity, s.annotations, s.containerSecurityContext, image, s.imagePullSecrets, s.labels,
        options, s.resources, s.securityContext, s.serviceAccount, sidecarSecurityContext,
        s.tolerations, s.volumeMounts, s.volumes, ()))
    (fun _ => rfl)

inductive IngressSecurity where
  | open | oauthProxy
  deriving DecidableEq, Repr

namespace IngressSecurity

def name : IngressSecurity → String
  | .open => "none"
  | .oauthProxy => "oauth-proxy"

def ofName? : String → Option IngressSecurity
  | "none" => some .open
  | "oauth-proxy" => some .oauthProxy
  | _ => none

def codec : Codec IngressSecurity := .choice name ofName? (by intro value; cases value <;> rfl)

end IngressSecurity

/-- How the query interface of an instance is reached. -/
structure Ingress where
  enabled : Option Bool := none
  security : Option IngressSecurity := none
  deriving DecidableEq

def Ingress.codec : Codec Ingress :=
  .recordOrRow ["enabled", "security"] 0
    (.cons "enabled" (.optional .bool) <|
      .cons "security" (.optional IngressSecurity.codec) .nil)
    (by decide)
    (fun (enabled, security, ()) => { enabled, security })
    (fun i => (i.enabled, i.security, ()))
    (fun _ => rfl)

/-- What an instance is meant to be. -/
structure InstanceSpec where
  settings : Settings := {}
  agent : AgentSpec := {}
  ingress : Option Ingress := none
  deriving DecidableEq, Inhabited

def InstanceSpec.codec : Codec InstanceSpec :=
  .record
    (.cons "affinity" (.optional Affinity.codec) <|
      .cons "agent" (.orMissing AgentSpec.codec {}) <|
      .cons "annotations" (.unlessEmpty (.map .string) ∅) <|
      .cons "containerSecurityContext" (.optional SecurityContext.codec) <|
      .cons "imagePullSecrets" (.unlessEmpty (.list LocalReference.codec) []) <|
      .cons "ingress" (.optional Ingress.codec) <|
      .cons "labels" (.unlessEmpty (.map .string) ∅) <|
      .cons "resources" (.optional ResourceRequirements.codec) <|
      .cons "securityContext" (.optional PodSecurityContext.codec) <|
      .cons "serviceAccount" (.optional .string) <|
      .cons "tolerations" (.unlessEmpty (.list Toleration.codec) []) <|
      .cons "volumeMounts" (.unlessEmpty (.list VolumeMount.codec) []) <|
      .cons "volumes" (.unlessEmpty (.list Volume.codec) []) .nil)
    (by decide)
    (fun (affinity, agent, annotations, containerSecurityContext, imagePullSecrets, ingress,
        labels, resources, securityContext, serviceAccount, tolerations, volumeMounts, volumes,
        ()) =>
      { settings := { affinity, annotations, containerSecurityContext, imagePullSecrets, labels,
                      resources, securityContext, serviceAccount, tolerations, volumeMounts,
                      volumes }
        agent, ingress })
    (fun ⟨s, agent, ingress⟩ =>
      (s.affinity, agent, s.annotations, s.containerSecurityContext, s.imagePullSecrets, ingress,
        s.labels, s.resources, s.securityContext, s.serviceAccount, s.tolerations, s.volumeMounts,
        s.volumes, ()))
    (fun _ => rfl)

/-- What is reported about an instance. -/
structure InstanceStatus where
  phase : Option String := none
  version : Option String := none
  deriving DecidableEq

def InstanceStatus.codec : Codec InstanceStatus :=
  .recordOrRow ["phase", "version"] 0
    (.cons "phase" (.optional .string) <| .cons "version" (.optional .string) .nil)
    (by decide)
    (fun (phase, version, ()) => { phase, version })
    (fun s => (s.phase, s.version, ()))
    (fun _ => rfl)

/-- A tracing instance. -/
structure TracingInstance where
  metadata : ObjectMeta := {}
  spec : InstanceSpec := {}
  status : Option InstanceStatus := none
  deriving DecidableEq, Inhabited

namespace TracingInstance

def codec : Codec TracingInstance :=
  .recordOrRow ["metadata", "spec", "status"] 3
    (.cons "apiVersion" (.stamp "jaegertracing.io/v1") <|
      .cons "kind" (.stamp "Jaeger") <|
      .cons "metadata" (.required ObjectMeta.codec) <|
      .cons "spec" (.required InstanceSpec.codec) <|
      .cons "status" (.optional InstanceStatus.codec) .nil)
    (by decide)
    (fun ((), (), metadata, spec, status, ()) => { metadata, spec, status })
    (fun i => ((), (), i.metadata, i.spec, i.status, ()))
    (fun _ => rfl)

def anyName (i : TracingInstance) : String := i.metadata.anyName

def namespace? (i : TracingInstance) : Option String := i.metadata.namespaceName

/-- The port of the collector service. -/
def collectorPort : Nat := 14250

/-- The address that agents of the instance report to. -/
def collectorAddress (i : TracingInstance) : String :=
  "dns:///" ++ Naming.headlessCollector i.anyName ++ "." ++ i.namespace?.getD "default" ++ ".svc:"
    ++ toString collectorPort

/-- The label value that records a binding to the instance. -/
def marker (i : TracingInstance) : String := Naming.labelValue i.anyName

def trustedCaName (i : TracingInstance) : String := Naming.trustedCa i.anyName

def serviceCaName (i : TracingInstance) : String := Naming.serviceCa i.anyName

end TracingInstance

end TracingSidecar
