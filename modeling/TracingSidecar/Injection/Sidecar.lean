import TracingSidecar.Agent.Tags
import TracingSidecar.Config.Injector
import TracingSidecar.Instance
import TracingSidecar.Object.Workload
import TracingSidecar.Settings.Merge

/-!
# The sidecar

The agent container that an instance prescribes for a workload, and the volumes, mounts and pull
secrets that come with it.  Options of the instance come before defaults; tags that an earlier
sidecar carried are kept, unless the options set tags; what the cluster filled into an earlier
sidecar is carried over.
-/

namespace TracingSidecar

/-- The name of the agent container. -/
def agentName : String := "jaeger-agent"

def Container.isAgent (c : Container) : Bool := c.name = agentName

namespace Workload

/-- The agent container, if the workload has one. -/
def agent? (w : Workload) : Option Container := w.containers.find? Container.isAgent

/-- The position of the agent among the containers. -/
def agentIndex? (w : Workload) : Option Nat := w.containers.findIdx? Container.isAgent

def hasAgent (w : Workload) : Bool := w.containers.any Container.isAgent

/-- The namespace of the workload; one that is not given or empty is `default`. -/
def namespaceOrDefault (w : Workload) : String :=
  (w.metadata.namespaceName.filter (· ≠ "")).getD "default"

end Workload

namespace Agent

/-! ### Environment variables of the agent -/

def podNameVariable : String := "POD_NAME"
def hostIpVariable : String := "HOST_IP"

/-- The text that the agent replaces by the value of a variable. -/
def reference (variableName : String) : String := "$\x7b" ++ variableName ++ ":\x7d"

/-- The tags that every span of a workload gets.  The application container is the first one that is
not the agent. -/
def defaultTags (w : Workload) : Tags :=
  let tags := Tags.empty
    |>.insert "cluster" "undefined"
    |>.insert "pod.namespace" w.namespaceOrDefault
    |>.insert "pod.name" (reference podNameVariable)
    |>.insert "host.ip" (reference hostIpVariable)
  let tags := match w.kind.nameTag? with
    | some key => tags.insert key w.anyName
    | none => tags
  match w.containers.find? (!·.isAgent) with
  | some container => tags.insert "container.name" container.name
  | none => tags

end Agent

/-! ### Trust bundles -/

def trustedCaMountPath : String := "/etc/pki/ca-trust/extracted/pem"
def serviceCaMountPath : String := "/etc/pki/ca-trust/source/service-ca"
def serviceCaPath : String := "/etc/pki/ca-trust/source/service-ca/service-ca.crt"

/-- The volumes with the trust bundles of an instance. -/
def caVolumes (i : TracingInstance) : List Volume :=
  [.ofConfigMap i.trustedCaName "ca-bundle.crt" "tls-ca-bundle.pem",
    .ofConfigMap i.serviceCaName "service-ca.crt" "service-ca.crt"]

def caMounts (i : TracingInstance) : List VolumeMount :=
  [.readOnlyAt i.trustedCaName trustedCaMountPath, .readOnlyAt i.serviceCaName serviceCaMountPath]

namespace InjectorConfig

/-- Whether agents have to trust the certificates of cluster services. -/
def addsCaVolumes (config : InjectorConfig) : Bool := config.platform = .openShift

/-- The volumes that come with the sidecar: those of the agent's own settings, and the trust
bundles. -/
def sidecarVolumes (config : InjectorConfig) (i : TracingInstance) : List Volume :=
  distinctVolumes
    (i.spec.agent.settings.volumes ++ if config.addsCaVolumes then caVolumes i else [])

def sidecarMounts (config : InjectorConfig) (i : TracingInstance) : List VolumeMount :=
  distinctMounts
    (i.spec.agent.settings.volumeMounts ++ if config.addsCaVolumes then caMounts i else [])

/-- The arguments that the options and the platform ask for, before tags. -/
def connectionArgs (config : InjectorConfig) (i : TracingInstance) : List String :=
  let args := i.spec.agent.options.toArgs
  let args :=
    if (Agent.findArgument? Agent.collectorFlag args).isSome then args
    else args ++ [Agent.collectorFlag ++ i.collectorAddress]
  if config.addsCaVolumes && (Agent.findArgument? Agent.tlsEnabledFlag args).isNone then
    args ++ [Agent.tlsEnabledFlag ++ "true", Agent.tlsCaFlag ++ serviceCaPath]
  else args

end InjectorConfig

namespace Agent

/-- The arguments with a tag argument: one that is there stays as it is, otherwise the tags of an
earlier sidecar are kept and the default tags are put over them. -/
def addTags (w : Workload) (existing : Option Container) (args : List String) : List String :=
  if (findArgument? tagsFlag args).isSome then args
  else
    let previous := Tags.ofArgs ((existing.bind (·.args)).getD [])
    args ++ [(previous.merge (defaultTags w)).toArgument]

/-- The ports that the agent listens on under some arguments. -/
def containerPorts (args : List String) : List ContainerPort :=
  [{ name := some "zk-compact-trft", protocol := some "UDP",
     containerPort := port zipkinCompactFlag args zipkinCompactPort },
    { name := some "config-rest", protocol := some "TCP",
      containerPort := port configRestFlag args configRestPort },
    { name := some "jg-compact-trft", protocol := some "UDP",
      containerPort := port jaegerCompactFlag args jaegerCompactPort },
    { name := some "jg-binary-trft", protocol := some "UDP",
      containerPort := port jaegerBinaryFlag args jaegerBinaryPort },
    { name := some "admin-http", protocol := some "TCP",
      containerPort := adminPort args adminHttpPort }]

end Agent

/-- The agent container of an instance for a workload, given the agent container that the workload
has already. -/
def InjectorConfig.sidecar (config : InjectorConfig) (i : TracingInstance) (w : Workload)
    (existing : Option Container) : Container :=
  let agent := i.spec.agent
  let args := config.connectionArgs i
  let mounts := config.sidecarMounts i
  { name := agentName
    image := some (agent.image.getD config.agentImage)
    args := some (Agent.addTags w existing args).mergeSort
    env := some [.ofField Agent.podNameVariable "metadata.name",
      .ofField Agent.hostIpVariable "status.hostIP"]
    ports := some (Agent.containerPorts args)
    resources := some ((Settings.merge [agent.settings, i.spec.settings]).resources.getD {})
    securityContext := agent.sidecarSecurityContext.or agent.settings.containerSecurityContext
    volumeMounts := if mounts.isEmpty then none else some mounts
    imagePullPolicy := existing.bind (·.imagePullPolicy)
    terminationMessagePath := existing.bind (·.terminationMessagePath)
    terminationMessagePolicy := existing.bind (·.terminationMessagePolicy) }

end TracingSidecar
