import TracingSidecar.Json.Pointer
import TracingSidecar.Discovery.Wait
import TracingSidecar.Instance

/-!
# The resource definition of tracing instances

The definition that makes a cluster serve tracing instances: their names, the one version they are
served in, and a schema of what an instance may say.  Objects that the cluster defines itself, such
as volumes, are described no further than their JSON type.
-/

namespace TracingSidecar

/-- Schemas, as JSON values. -/
abbrev Schema := Json

namespace Schema

/-- The same schema with one more keyword. -/
def keyword (key : String) (value : Json) : Schema → Schema
  | .obj members => .obj (SortedMap.insertEntry key value members)
  | schema => schema

/-- Values of a JSON type. -/
def ofType (name : String) : Schema := .object [("type", .str name)]

def text : Schema := ofType "string"

def flag : Schema := ofType "boolean"

/-- Objects of any form. -/
def anyObject : Schema := ofType "object"

/-- Maps from texts to texts. -/
def texts : Schema := anyObject.keyword "additionalProperties" text

def list (item : Schema) : Schema := (ofType "array").keyword "items" item

def record (members : List (String × Schema)) : Schema :=
  anyObject.keyword "properties" (.object members)

/-- One of some texts. -/
def choice (names : List String) : Schema := text.keyword "enum" (Json.strs names)

/-- Values of a schema, or null. -/
def nullable (schema : Schema) : Schema := schema.keyword "nullable" (.bool true)

def described (description : String) (schema : Schema) : Schema :=
  schema.keyword "description" (.str description)

end Schema

namespace Definition

/-- The members of settings fragments. -/
def settingsMembers : List (String × Schema) :=
  [("affinity", .nullable .anyObject),
    ("annotations", .texts),
    ("containerSecurityContext", .nullable .anyObject),
    ("imagePullSecrets", .list .anyObject),
    ("labels", .texts),
    ("resources", .nullable .anyObject),
    ("securityContext", .nullable .anyObject),
    ("serviceAccount", .nullable .text),
    ("tolerations", .list .anyObject),
    ("volumeMounts", .list .anyObject),
    ("volumes", .list .anyObject)]

def settingsDescription : String :=
  "Settings shared by every component of an instance, also used as the fragment type "
    ++ "\x60inject::merge\x60 combines."

/-- What an agent may say; its options have any form. -/
def agent : Schema :=
  let members : List (String × Schema) :=
    [("image", .nullable .text),
      ("options", Schema.anyObject.keyword "x-kubernetes-preserve-unknown-fields" (.bool true)),
      ("sidecarSecurityContext", .nullable .anyObject)]
  ((Schema.record (settingsMembers ++ members)).described "Agent configuration of an instance"
    ).keyword "default" (.object [])

def ingress : Schema :=
  .nullable <| .record
    [("enabled", .nullable .flag),
      ("security", .nullable <| .described "How the query UI is protected" <|
        .choice [IngressSecurity.open.name, IngressSecurity.oauthProxy.name])]

def spec : Schema :=
  (Schema.record (settingsMembers ++ [("agent", agent), ("ingress", ingress)])).described
    settingsDescription

def status : Schema :=
  .nullable <| .record [("phase", .nullable .text), ("version", .nullable .text)]

/-- What an instance may say. -/
def schema : Schema :=
  ((Schema.record [("spec", spec), ("status", status)]).described
    "Auto-generated derived type for JaegerSpec via \x60CustomResource\x60"
    ).keyword "required" (Json.strs ["spec"])
    |>.keyword "title" (.str Discovery.instanceKind)

/-- The only version in which instances are served and stored. -/
def version : Json :=
  .object [
    ("name", .str Discovery.instanceVersion),
    ("served", .bool true),
    ("storage", .bool true),
    ("schema", .object [("openAPIV3Schema", schema)]),
    ("additionalPrinterColumns", .arr []),
    ("subresources", .object [("status", .object [])])]

/-- The names of the resource. -/
def names : Json :=
  .object [
    ("kind", .str Discovery.instanceKind),
    ("plural", .str "jaegers"),
    ("singular", .str "jaeger"),
    ("categories", .arr []),
    ("shortNames", .arr [])]

/-- The definition, as it is written. -/
def document : Json :=
  .object [
    ("apiVersion", .str "apiextensions.k8s.io/v1"),
    ("kind", .str "CustomResourceDefinition"),
    ("metadata", .object [("name", .str ("jaegers." ++ Discovery.instanceGroup))]),
    ("spec", .object [
      ("group", .str Discovery.instanceGroup),
      ("scope", .str "Namespaced"),
      ("names", names),
      ("versions", .arr [version])])]

end Definition

end TracingSidecar
