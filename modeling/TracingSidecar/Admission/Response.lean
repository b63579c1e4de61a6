import TracingSidecar.Admission.Review
import TracingSidecar.Json.Patch

/-!
# Answers to admission reviews

An object is allowed as it is, allowed with a patch, or denied with a reason.  The answer carries
the identifier of the request and goes back in a review of the version and kind that asked for it.
-/

namespace TracingSidecar

/-- What becomes of an object. -/
inductive Verdict where
  | allowed (patch : Option Json.Patch)
  | denied (reason : String)
  deriving DecidableEq

/-- Whether the object may be stored. -/
def Verdict.isAllowed : Verdict → Bool
  | .allowed _ => true
  | .denied _ => false

/-- The changes that the object is stored with. -/
def Verdict.patch? : Verdict → Option Json.Patch
  | .allowed patch => patch
  | .denied _ => none

/-- The answer to a request. -/
structure AdmissionResponse where
  uid : String
  verdict : Verdict
  deriving DecidableEq

def AdmissionResponse.toJson (response : AdmissionResponse) : Json :=
  let shared : List (String × Json) :=
    [("uid", .str response.uid), ("allowed", .bool response.verdict.isAllowed)]
  match response.verdict with
  | .denied reason => .object (("status", .object [("message", .str reason)]) :: shared)
  | .allowed none => .object (("status", .object []) :: shared)
  | .allowed (some patch) =>
      .object (("status", .object []) :: ("patch", patch.toJson) :: ("patchType", .str "JSONPatch")
        :: shared)

/-- The text shown for a review that asks for nothing. -/
def missingRequestMessage : String := "failed to convert AdmissionReview into AdmissionRequest"

/-- The review that goes back. -/
inductive AdmissionReply where
  | answered (apiVersion kind : String) (response : AdmissionResponse)
  | missingRequest
  deriving DecidableEq

def AdmissionReply.toJson : AdmissionReply → Json
  | .answered apiVersion kind response =>
      .object [("apiVersion", .str apiVersion), ("kind", .str kind), ("response", response.toJson)]
  | .missingRequest =>
      .object [
        ("apiVersion", .str "admission.k8s.io/v1beta1"),
        ("kind", .str "AdmissionReview"),
        ("response", .object [
          ("uid", .str ""),
          ("allowed", .bool false),
          ("status", .object [
            ("status", .str "Failure"),
            ("message", .str missingRequestMessage),
            ("reason", .str "InvalidRequest")])])]

end TracingSidecar
