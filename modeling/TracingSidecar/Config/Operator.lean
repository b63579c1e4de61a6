import TracingSidecar.Config.Injector
import TracingSidecar.Config.SocketAddress
import TracingSidecar.Text.Blank
import TracingSidecar.Text.Cut

/-!
# Configuration of the operator

The operator is configured by environment variables.  A variable that is set to the empty text is
set; of all variables only a bad socket address is an error.
-/

namespace TracingSidecar

/-- The values of the environment variables that are set. -/
abbrev Environment := String → Option String

structure OperatorConfig where
  platform : Platform
  agentImage : String
  watchNamespaces : List String
  propagation : String
  webhookEnabled : Bool
  webhookBindAddress : SocketAddress
  webhookCertDir : String

namespace OperatorConfig

/-- The namespaces of a comma-separated list, without surrounding blanks and empty entries. -/
def parseNamespaces (text : String) : List String :=
  ((Text.split ',' text).map Text.trimBlanks).filter (· ≠ "")

/-- The configuration that an environment describes. -/
def ofEnvironment (env : Environment) : Except ConfigError OperatorConfig :=
  match SocketAddress.parse? ((env "WEBHOOK_BIND_ADDRESS").getD "0.0.0.0:9443") with
  | none => .error .invalidBindAddress
  | some address =>
      .ok {
        platform := match (env "PLATFORM").map Platform.parse with
          | some (.ok platform) => platform
          | _ => .kubernetes
        agentImage := (env "JAEGER_AGENT_IMAGE").getD defaultAgentImage
        watchNamespaces := parseNamespaces ((env "WATCH_NAMESPACES").getD "")
        propagation := (env "JAEGER_PROPAGATION").getD defaultPropagation
        webhookEnabled := env "ENABLE_WEBHOOK" ≠ some "false"
        webhookBindAddress := address
        webhookCertDir :=
          (env "WEBHOOK_CERT_DIR").getD "/tmp/k8s-webhook-server/serving-certs" }

/-- The part of the configuration that the injector works with. -/
def injector (config : OperatorConfig) : InjectorConfig where
  platform := config.platform
  agentImage := config.agentImage
  propagation := config.propagation

/-- A file of a directory; a separator is added only where one is missing. -/
def joinPath (directory file : String) : String :=
  match directory.toList.getLast? with
  | none => file
  | some '/' => directory ++ file
  | some _ => directory ++ "/" ++ file

/-- The certificate that the admission endpoint is served with. -/
def certificatePath (config : OperatorConfig) : String := joinPath config.webhookCertDir "tls.crt"

end OperatorConfig

end TracingSidecar
