import TracingSidecar.Admission.Response
import TracingSidecar.Reconcile.Namespace

/-!
# Deciding about an admission

The object of a request is evaluated like a stored workload, and what the evaluation changes goes
back as a patch.  An object that is not in a namespace yet counts as being in the request's; that
namespace is never part of the patch.  Where the namespace or the instances cannot be read the
request is denied, so that it is made again.
-/

namespace TracingSidecar

namespace AdmissionRequest

variable {kind : WorkloadKind}

/-- An object in the namespace that it is about to be stored in. -/
def place (request : AdmissionRequest kind) (w : Workload) : Workload :=
  match w.metadata.namespaceName with
  | some _ => w
  | none => w.modifyMetadata fun m => { m with namespaceName := request.namespaceName }

/-- The name of the namespace that decides about an object. -/
def decidingNamespace (request : AdmissionRequest kind) (w : Workload) : String :=
  (request.namespaceName.or w.metadata.namespaceName).getD "default"

/-- The answer with a verdict. -/
def answer (request : AdmissionRequest kind) (verdict : Verdict) : AdmissionResponse :=
  ⟨request.uid, verdict⟩

/-- What the evaluation of an object changes, if it changes anything. -/
def patch? (request : AdmissionRequest kind) (config : InjectorConfig) (ns : Namespace)
    (instances : List TracingInstance) (w : Workload) : Option Json.Patch :=
  let (evaluation, evaluated) := evaluate config ns instances (request.place w)
  if evaluation.changed then some (Json.diff (request.place w).encode evaluated.encode) else none

/-- The answer to a request, given the namespace and the instances. -/
def mutate (request : AdmissionRequest kind) (config : InjectorConfig) (ns : Namespace)
    (instances : List TracingInstance) : AdmissionResponse :=
  match request.object with
  | none => request.answer (.allowed none)
  | some ⟨w, _⟩ => request.answer (.allowed (request.patch? config ns instances w))

/-- The reason given when the namespace could not be read. -/
def namespaceUnreadable (name : String) (error : ApiError) : String :=
  "failed to read namespace '" ++ name ++ "': " ++ error.message ++ ", will retry"

/-- The reason given when the instances could not be listed. -/
def instancesUnreadable (error : ApiError) : String :=
  "failed to list Jaeger instances: " ++ (OperatorError.api error).message ++ ", will retry"

/-- Read the namespace and the instances, and answer.  A request without an object needs neither. -/
def review (context : PassContext) (request : AdmissionRequest kind) : Client AdmissionResponse :=
  match request.object with
  | none => pure (request.answer (.allowed none))
  | some ⟨w, _⟩ => do
      let name := request.decidingNamespace w
      match ← Client.sendNamed name (.getNamespace name) with
      | .error error => pure (request.answer (.denied (namespaceUnreadable name error)))
      | .ok ns =>
          match ← listInstances context.watched with
          | .error error => pure (request.answer (.denied (instancesUnreadable error)))
          | .ok instances => pure (request.mutate context.config ns instances)

end AdmissionRequest

/-- Answer a review. -/
def AdmissionReview.reply {kind : WorkloadKind} (context : PassContext)
    (review : AdmissionReview kind) : Client AdmissionReply :=
  match review.request with
  | none => pure .missingRequest
  | some request => do
      let response ← request.review context
      pure (.answered review.apiVersion review.kind response)

end TracingSidecar
