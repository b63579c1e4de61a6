import TracingSidecar.Admission.Received
import TracingSidecar.Object.Workload

/-!
# Admission reviews

Before the cluster stores a pod or deployment it asks for a review: what is to be done by whom, and
the object as it would be stored.  A review without a request asks for nothing.  A review may carry
an answer already, which is read and not used.
-/

namespace TracingSidecar

/-- What is to be done with an object. -/
inductive AdmissionOperation where
  | create | update | delete | connect
  deriving DecidableEq, Repr

namespace AdmissionOperation

def name : AdmissionOperation → String
  | .create => "CREATE"
  | .update => "UPDATE"
  | .delete => "DELETE"
  | .connect => "CONNECT"

def ofName? : String → Option AdmissionOperation
  | "CREATE" => some .create
  | "UPDATE" => some .update
  | "DELETE" => some .delete
  | "CONNECT" => some .connect
  | _ => none

def codec : Codec AdmissionOperation := .choice name ofName? (by intro value; cases value <;> rfl)

end AdmissionOperation

/-- A kind of object in a version of a group. -/
structure ObjectKind where
  group : String
  version : String
  kind : String
  deriving DecidableEq

def ObjectKind.codec : Codec ObjectKind :=
  .recordOrRow ["group", "version", "kind"] 3
    (.cons "group" (.required .string) <|
      .cons "kind" (.required .string) <|
      .cons "version" (.required .string) .nil)
    (by decide)
    (fun (group, kind, version, ()) => { group, version, kind })
    (fun k => (k.group, k.kind, k.version, ()))
    (fun _ => rfl)

/-- The resource through which objects of a kind are reached.  Group and version may be given once
more as one text. -/
structure ObjectResource where
  group : String
  version : String
  resource : String
  groupVersion : String := ""
  deriving DecidableEq

def ObjectResource.codec : Codec ObjectResource :=
  .recordOrRow ["group", "version", "resource", "api_version"] 3
    (.cons "api_version" (.orMissing .string "") <|
      .cons "group" (.required .string) <|
      .cons "resource" (.required .string) <|
      .cons "version" (.required .string) .nil)
    (by decide)
    (fun (groupVersion, group, resource, version, ()) => { group, version, resource, groupVersion })
    (fun r => (r.groupVersion, r.group, r.resource, r.version, ()))
    (fun _ => rfl)

/-- Who asks. -/
structure Requester where
  extra : Option (SortedMap (List String)) := none
  groups : Option (List String) := none
  uid : Option String := none
  username : Option String := none
  deriving DecidableEq

def Requester.codec : Codec Requester :=
  .record
    (.cons "extra" (.optional (.map (.list .string))) <|
      .cons "groups" (.optional (.list .string)) <|
      .cons "uid" (.optional .string) <|
      .cons "username" (.optional .string) .nil)
    (by decide)
    (fun (extra, groups, uid, username, ()) => { extra, groups, uid, username })
    (fun r => (r.extra, r.groups, r.uid, r.username, ()))
    (fun _ => rfl)

/-- What is asked about a workload of a kind. -/
structure AdmissionRequest (workloadKind : WorkloadKind) where
  uid : String
  kind : ObjectKind
  resource : ObjectResource
  subResource : Option String := none
  requestKind : Option ObjectKind := none
  requestResource : Option ObjectResource := none
  requestSubResource : Option String := none
  name : String := ""
  namespaceName : Option String := none
  operation : AdmissionOperation
  requester : Requester := {}
  object : Option (WorkloadOf workloadKind) := none
  oldObject : Option (WorkloadOf workloadKind) := none
  dryRun : Bool := false
  deriving DecidableEq

namespace AdmissionRequest

/-- The order of the values in a request that is given as a list. -/
def row : List String :=
  ["uid", "kind", "resource", "subResource", "requestKind", "requestResource",
    "requestSubResource", "name", "namespace", "operation", "userInfo", "object", "oldObject",
    "dryRun", "options"]

def codec (workloadKind : WorkloadKind) : Codec (AdmissionRequest workloadKind) :=
  .recordOrRow row 13
    (.cons "dryRun" (.orMissing .bool false) <|
      .cons "kind" (.required ObjectKind.codec) <|
      .cons "name" (.orMissing .string "") <|
      .cons "namespace" (.optional .string) <|
      .cons "object" (.optional (WorkloadOf.codec workloadKind)) <|
      .cons "oldObject" (.optional (WorkloadOf.codec workloadKind)) <|
      .cons "operation" (.required AdmissionOperation.codec) <|
      .cons "options" .unused <|
      .cons "requestKind" (.optional ObjectKind.codec) <|
      .cons "requestResource" (.optional ObjectResource.codec) <|
      .cons "requestSubResource" (.optional .string) <|
      .cons "resource" (.required ObjectResource.codec) <|
      .cons "subResource" (.optional .string) <|
      .cons "uid" (.required .string) <|
      .cons "userInfo" (.required Requester.codec) .nil)
    (show Shape.ascending ["dryRun", "kind", "name", "namespace", "object", "oldObject",
      "operation", "options", "requestKind", "requestResource", "requestSubResource", "resource",
      "subResource", "uid", "userInfo"] = true by decide)
    (fun (dryRun, kind, name, namespaceName, object, oldObject, operation, (), requestKind,
        requestResource, requestSubResource, resource, subResource, uid, requester, ()) =>
      { uid, kind, resource, subResource, requestKind, requestResource, requestSubResource, name,
        namespaceName, operation, requester, object, oldObject, dryRun })
    (fun r => (r.dryRun, r.kind, r.name, r.namespaceName, r.object, r.oldObject, r.operation, (),
      r.requestKind, r.requestResource, r.requestSubResource, r.resource, r.subResource, r.uid,
      r.requester, ()))
    (fun _ => rfl)

end AdmissionRequest

/-- A review, as the cluster asks for it. -/
structure AdmissionReview (workloadKind : WorkloadKind) where
  apiVersion : String
  kind : String
  request : Option (AdmissionRequest workloadKind) := none
  deriving DecidableEq

namespace AdmissionReview

variable {workloadKind : WorkloadKind}

/-- What has been read of a review. -/
structure Parts (workloadKind : WorkloadKind) where
  request : Option (Option (AdmissionRequest workloadKind)) := none
  response : Option (Option ReceivedResponse) := none
  /-- All other members. -/
  others : List (String × Json) := []

namespace Parts

/-- Read one member.  A request or response is refused where it stands for the second time. -/
def put (parts : Parts workloadKind) (name : String) (draft : Json.Draft) :
    Except Json.Refusal (Parts workloadKind) :=
  if name = "request" then
    if parts.request.isSome then .error .unfit
    else
      ((Member.optional (AdmissionRequest.codec workloadKind)).read draft).map fun request =>
        { parts with request := some request }
  else if name = "response" then
    if parts.response.isSome then .error .unfit
    else
      ((Member.optional ReceivedResponse.codec).read draft).map fun response =>
        { parts with response := some response }
  else
    match draft.value? with
    | none => .error .malformed
    | some json => .ok { parts with others := parts.others ++ [(name, json)] }

/-- Read members up to the first one that is refused. -/
def putAll (parts : Parts workloadKind) :
    List (Option String × Json.Draft) → Except Json.Refusal (Parts workloadKind)
  | [] => .ok parts
  | (none, _) :: _ => .error .malformed
  | (some name, draft) :: rest =>
      match parts.put name draft with
      | .error refusal => .error refusal
      | .ok parts => parts.putAll rest

/-- The text of the only member with a name. -/
def text? (parts : Parts workloadKind) (name : String) : Option String :=
  match parts.others.filter (·.1 = name) with
  | [(_, .str text)] => some text
  | _ => none

/-- The review with these parts. -/
def finish (parts : Parts workloadKind) : Except Json.Refusal (AdmissionReview workloadKind) :=
  match parts.text? "apiVersion", parts.text? "kind" with
  | some apiVersion, some kind => .ok { apiVersion, kind, request := parts.request.join }
  | _, _ => .error .unfit

end Parts

/-- Read a review.  Its version and kind are looked at when all else has been read. -/
def read (workloadKind : WorkloadKind) :
    Json.Draft → Except Json.Refusal (AdmissionReview workloadKind)
  | .object level members closed =>
      match Json.Draft.enclosed level closed (({} : Parts workloadKind).putAll members) with
      | .error refusal => .error refusal
      | .ok parts => parts.finish
  | draft => .error draft.refusal

/-- The review that is written as a JSON value. -/
def decode (workloadKind : WorkloadKind) (json : Json) : Option (AdmissionReview workloadKind) :=
  (read workloadKind json.draft).toOption

end AdmissionReview

end TracingSidecar
