import TracingSidecar.Config.Error
import TracingSidecar.SortedMap
import TracingSidecar.Text.Ascii

/-!
# Settings of the injector
-/

namespace TracingSidecar

/-- The kind of cluster that the operator runs on. -/
inductive Platform where
  | kubernetes | openShift
  deriving DecidableEq, Repr, Inhabited

namespace Platform

def name : Platform → String
  | .kubernetes => "kubernetes"
  | .openShift => "openshift"

/-- The platform of a name, up to the case of ASCII letters. -/
def parse (text : String) : Except ConfigError Platform :=
  let name := Text.lower text
  if name = "kubernetes" then .ok .kubernetes
  else if name = "openshift" then .ok .openShift
  else .error (.unknownPlatform name)

end Platform

/-- The image that agents run unless an instance names another one. -/
def defaultAgentImage : String := "jaegertracing/jaeger-agent:1.62.0"

/-- The formats of trace contexts that applications pass on. -/
def defaultPropagation : String := "jaeger,b3,w3c"

/-- The annotations that make the agent's metrics visible. -/
def metricsAnnotations : SortedMap String :=
  .ofList [("prometheus.io/scrape", "true"), ("prometheus.io/port", "14271")]

/-- What the injector is told once, at start-up. -/
structure InjectorConfig where
  platform : Platform := .kubernetes
  agentImage : String := defaultAgentImage
  propagation : String := defaultPropagation
  defaultAnnotations : SortedMap String := metricsAnnotations
  deriving DecidableEq

end TracingSidecar
