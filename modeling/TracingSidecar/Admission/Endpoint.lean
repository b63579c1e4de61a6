import TracingSidecar.Admission.MediaType
import TracingSidecar.Admission.Mutation
import TracingSidecar.Json.Parser

/-!
# The admission endpoint

Pods and deployments are reviewed under a path of their own.  A request is refused for its path,
its method, its content type or its body, in this order; every other request is answered with a
review.
-/

namespace TracingSidecar

/-- A request to the endpoint.  Its address is a path, with or without scheme and host. -/
structure EndpointRequest where
  method : String := "POST"
  address : String
  contentType : Option String := some "application/json"
  body : String
  deriving DecidableEq

/-- Why a request is refused. -/
inductive EndpointRefusal where
  | unknownPath | wrongMethod | unsupportedContent | malformedBody | undecodableReview
  deriving DecidableEq, Repr

/-- The status that a refusal is answered with. -/
def EndpointRefusal.status : EndpointRefusal → Nat
  | .malformedBody => 400
  | .unknownPath => 404
  | .wrongMethod => 405
  | .unsupportedContent => 415
  | .undecodableReview => 422

namespace EndpointRequest

/-- The path of an address behind its scheme and host, if it begins with them. -/
def pathOf (address : List Char) : List Char :=
  match (Text.cutFirst? ':' address).bind fun (_, rest) => ['/', '/'].isPrefixOf? rest with
  | none => address
  | some rest =>
      match rest.dropWhile (· ≠ '/') with
      | [] => ['/']
      | path => path

/-- The path of the request, without a query. -/
def path (request : EndpointRequest) : String :=
  let address := request.address.toList.takeWhile fun c => c ≠ '?' && c ≠ '#'
  String.ofList (if address.head? = some '/' then address else pathOf address)

/-- The kind of workloads that are reviewed under the path. -/
def workloadKind? (request : EndpointRequest) : Option WorkloadKind :=
  if request.path = "/mutate-v1-pod" then some .pod
  else if request.path = "/mutate-v1-deployment" then some .deployment
  else none

/-- Whether the request says that its body is a JSON text. -/
def carriesJson (request : EndpointRequest) : Bool :=
  (request.contentType.bind MediaType.parse?).any (·.isJson)

/-- The review in a body.  What follows the first JSON value is not looked at. -/
def readReview (kind : WorkloadKind) (body : String) :
    Except EndpointRefusal (AdmissionReview kind) :=
  match AdmissionReview.read kind (Json.Draft.ofText body).1 with
  | .ok review => .ok review
  | .error .malformed => .error .malformedBody
  | .error .unfit => .error .undecodableReview

/-- The review that the request asks for, with the kind of workload that it is about. -/
def review? (request : EndpointRequest) :
    Except EndpointRefusal ((kind : WorkloadKind) × AdmissionReview kind) :=
  match request.workloadKind? with
  | none => .error .unknownPath
  | some kind =>
      if request.method ≠ "POST" then .error .wrongMethod
      else if !request.carriesJson then .error .unsupportedContent
      else (readReview kind request.body).map fun review => ⟨kind, review⟩

/-- Answer the request. -/
def serve (context : PassContext) (request : EndpointRequest) :
    Client (Except EndpointRefusal AdmissionReply) :=
  match request.review? with
  | .error refusal => pure (.error refusal)
  | .ok ⟨_, review⟩ => do
      let reply ← review.reply context
      pure (.ok reply)

end EndpointRequest

end TracingSidecar
