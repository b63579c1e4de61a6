import TracingSidecar.Text.Quoted

/-!
# Errors of the cluster

Why a request to the cluster failed, and why a whole operation did, with the texts shown for them.
-/

namespace TracingSidecar

/-- Why a request failed. -/
inductive ApiError where
  /-- The server answered with an error status. -/
  | status (code : Nat) (reason message : String)
  /-- No answer came. -/
  | transport (message : String)
  /-- The request names an object without a name and was not sent. -/
  | missingName
  /-- The address of the request has no target, and the request was not sent. -/
  | badAddress
  /-- The answer is not what was asked for. -/
  | unreadable
  deriving DecidableEq, Repr

namespace ApiError

/-- The answer of the server for an object or path that it does not know. -/
def notFound : ApiError := .status 404 "NotFound" "not found"

def message : ApiError → String
  | .status code reason message =>
      "ApiError: " ++ message ++ ": " ++ reason ++ " (ErrorResponse \x7b status: \"Failure\", "
        ++ "message: " ++ Text.quoted message ++ ", reason: " ++ Text.quoted reason
        ++ ", code: " ++ toString code ++ " \x7d)"
  | .transport message => "ServiceError: " ++ message
  | .missingName =>
      "Failed to build request: failed to validate request: A non-empty name is required"
  | .badAddress => "Failed to build request: failed to build request: invalid uri character"
  | .unreadable => "Error deserializing response"

end ApiError

/-- Why an operation on the cluster failed. -/
inductive OperatorError where
  /-- A request failed on which everything else depends. -/
  | api (error : ApiError)
  /-- Some lists or writes of a pass over a namespace failed. -/
  | workloads (namespaceName : String) (failed : Nat)
  /-- Some passes over the namespaces that an instance affects failed. -/
  | namespaces (instanceName : String) (failed : Nat)
  deriving DecidableEq, Repr

def OperatorError.message : OperatorError → String
  | .api error => "Kubernetes API error: " ++ error.message
  | .workloads namespaceName failed =>
      "Failed to update " ++ toString failed ++ " workload(s) in namespace " ++ namespaceName
  | .namespaces instanceName failed =>
      "Failed to re-evaluate " ++ toString failed ++ " namespace(s) bound to Jaeger instance "
        ++ instanceName

end TracingSidecar
