import TracingSidecar.Injection.Sidecar

/-!
# Adding and removing the sidecar

`inject` binds a workload to an instance: it decorates the application containers, puts the agent
container in the place of an earlier one or behind all others, and records the instance in a label.
`clean` takes the agent, the label and the trust bundle volumes of the bound instance away again.
-/

namespace TracingSidecar

/-- The label that records which instance a workload is bound to. -/
def boundLabel : String := "sidecar.jaegertracing.io/injected"

def appLabel : String := "app"
def appNameLabel : String := "app.kubernetes.io/name"
def appInstanceLabel : String := "app.kubernetes.io/instance"
def appComponentLabel : String := "app.kubernetes.io/component"

def serviceNameVariable : String := "JAEGER_SERVICE_NAME"
def propagationVariable : String := "JAEGER_PROPAGATION"

/-- Add a variable, unless there is one of its name. -/
def addMissingVariable (name value : String) (env : List EnvVar) : List EnvVar :=
  if env.any (·.name = name) then env else env ++ [.ofText name value]

/-- Tell an application container its service name and the trace context formats; the agent is left
alone. -/
def Container.decorate (serviceName : Option String) (propagation : String) (c : Container) :
    Container :=
  if c.isAgent then c
  else
    let env := c.env.getD []
    let env := match serviceName with
      | some name => addMissingVariable serviceNameVariable name env
      | none => env
    { c with env := some (addMissingVariable propagationVariable propagation env) }

/-- The first of the labels that name an application. -/
def ObjectMeta.appName? (m : ObjectMeta) : Option String :=
  [appInstanceLabel, appNameLabel, appLabel].findSome? m.label?

/-- Put the agent in the place of the first agent container, or behind all containers. -/
def placeAgent (sidecar : Container) : List Container → List Container
  | [] => [sidecar]
  | c :: rest => if c.isAgent then sidecar :: rest else c :: placeAgent sidecar rest

namespace Workload

/-- The instance that a workload was bound to. -/
def boundTo? (w : Workload) : Option String := w.metadata.label? boundLabel

/-- Whether the workload is a component of the tracing backend itself.  The query component is not
counted among them, for it may report traces of its own. -/
def isBackendComponent (w : Workload) : Bool :=
  w.metadata.label? appLabel = some "jaeger" && w.metadata.label? appComponentLabel ≠ some "query"

/-- The name of the application, from the labels of the pods or else of the workload. -/
def appName? (w : Workload) : Option String :=
  (w.templateMetadata?.bind (·.appName?)).or w.metadata.appName?

/-- The name under which the application reports its traces. -/
def serviceName? (w : Workload) : Option String :=
  w.appName?.map fun app => app ++ "." ++ w.namespaceOrDefault

/-- Decorate every application container. -/
def decorate (config : InjectorConfig) (w : Workload) : Workload :=
  w.modifyPodSpec fun spec =>
    { spec with containers := spec.containers.map (.decorate w.serviceName? config.propagation) }

/-- Remove the trust bundle volumes of an instance. -/
def removeCaVolumes (instanceName : String) (w : Workload) : Workload :=
  let names := [Naming.trustedCa instanceName, Naming.serviceCa instanceName]
  w.modifyPodSpec fun spec =>
    { spec with volumes := spec.volumes.map (·.filter fun v => !names.contains v.name) }

/-- Forget the instance that the workload is bound to, if it is another one. -/
def unbindFrom (marker : String) (w : Workload) : Workload :=
  match w.boundTo? with
  | some previous => if previous = marker then w else w.removeCaVolumes previous
  | none => w

end Workload

/-- Put the sidecar and what it brings along into a pod specification. -/
def PodSpec.addSidecar (config : InjectorConfig) (i : TracingInstance) (sidecar : Container)
    (spec : PodSpec) : PodSpec :=
  let secrets := i.spec.agent.settings.imagePullSecrets
  let volumes := config.sidecarVolumes i
  { spec with
    containers := placeAgent sidecar spec.containers
    imagePullSecrets :=
      if secrets.isEmpty then spec.imagePullSecrets
      else some (distinctSecrets (spec.imagePullSecrets.getD [] ++ secrets))
    volumes :=
      if volumes.isEmpty then spec.volumes
      else some (distinctVolumes (spec.volumes.getD [] ++ volumes)) }

namespace InjectorConfig

/-- The workload before the sidecar is put into it: without the trust bundles of another instance,
decorated and annotated. -/
def prepare (config : InjectorConfig) (i : TracingInstance) (w : Workload) : Workload :=
  ((w.unbindFrom i.marker).decorate config).modifyTemplateMetadata
    (·.fillAnnotations config.defaultAnnotations)

/-- Add or refresh the sidecar of an instance. -/
def inject (config : InjectorConfig) (i : TracingInstance) (w : Workload) : Workload :=
  let prepared := config.prepare i w
  let sidecar := config.sidecar i prepared prepared.agent?
  (prepared.modifyPodSpec (·.addSidecar config i sidecar)).modifyMetadata
    (·.setLabel boundLabel i.marker)

end InjectorConfig

/-- Remove the sidecar that was added for an instance. -/
def Workload.clean (instanceName : String) (w : Workload) : Workload :=
  ((w.modifyMetadata (·.removeLabel boundLabel)).modifyPodSpec fun spec =>
    { spec with containers := spec.containers.filter (!·.isAgent) }).removeCaVolumes instanceName

end TracingSidecar
