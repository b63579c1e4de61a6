import TracingSidecar.Json.Record

/-!
# Received answers

A review that is sent for an answer may carry one already.  Such an answer has to be of the form
given here; it is not used.
-/

namespace TracingSidecar

/-- One reason for a failure. -/
structure StatusCause where
  reason : String := ""
  message : String := ""
  field : String := ""
  deriving DecidableEq

def StatusCause.codec : Codec StatusCause :=
  .recordOrRow ["reason", "message", "field"] 0
    (.cons "field" (.orMissing .string "") <|
      .cons "message" (.orMissing .string "") <|
      .cons "reason" (.orMissing .string "") .nil)
    (by decide)
    (fun (field, message, reason, ()) => { reason, message, field })
    (fun c => (c.field, c.message, c.reason, ()))
    (fun _ => rfl)

/-- What a failure is about. -/
structure StatusDetails where
  name : String := ""
  group : String := ""
  kind : String := ""
  uid : String := ""
  causes : List StatusCause := []
  retryAfterSeconds : Fin UInt32.size := 0
  deriving DecidableEq

def StatusDetails.codec : Codec StatusDetails :=
  .recordOrRow ["name", "group", "kind", "uid", "causes", "retryAfterSeconds"] 0
    (.cons "causes" (.orMissing (.list StatusCause.codec) []) <|
      .cons "group" (.orMissing .string "") <|
      .cons "kind" (.orMissing .string "") <|
      .cons "name" (.orMissing .string "") <|
      .cons "retryAfterSeconds" (.orMissing (.below UInt32.size) 0) <|
      .cons "uid" (.orMissing .string "") .nil)
    (by decide)
    (fun (causes, group, kind, name, retryAfterSeconds, uid, ()) =>
      { name, group, kind, uid, causes, retryAfterSeconds })
    (fun d => (d.causes, d.group, d.kind, d.name, d.retryAfterSeconds, d.uid, ()))
    (fun _ => rfl)

inductive StatusSummary where
  | success | failure
  deriving DecidableEq, Repr

namespace StatusSummary

def name : StatusSummary → String
  | .success => "Success"
  | .failure => "Failure"

def ofName? : String → Option StatusSummary
  | "Success" => some .success
  | "Failure" => some .failure
  | _ => none

def codec : Codec StatusSummary := .choice name ofName? (by intro value; cases value <;> rfl)

end StatusSummary

/-- What became of a request. -/
structure StatusReport where
  status : Option StatusSummary := none
  code : Fin UInt16.size := 0
  message : String := ""
  reason : String := ""
  details : Option StatusDetails := none
  deriving DecidableEq

def StatusReport.codec : Codec StatusReport :=
  .recordOrRow ["status", "code", "message", "reason", "details"] 0
    (.cons "code" (.orMissing (.below UInt16.size) 0) <|
      .cons "details" (.optional StatusDetails.codec) <|
      .cons "message" (.orMissing .string "") <|
      .cons "reason" (.orMissing .string "") <|
      .cons "status" (.optional StatusSummary.codec) .nil)
    (by decide)
    (fun (code, details, message, reason, status, ()) =>
      { status, code, message, reason, details })
    (fun r => (r.code, r.details, r.message, r.reason, r.status, ()))
    (fun _ => rfl)

/-- How a patch is written. -/
inductive PatchForm where
  | changes
  deriving DecidableEq, Repr

def PatchForm.codec : Codec PatchForm :=
  .choice (fun _ => "JSONPatch") (fun name => if name = "JSONPatch" then some .changes else none)
    (by intro value; cases value; rfl)

/-- An answer that a review carries already.  A patch is given octet by octet. -/
structure ReceivedResponse where
  uid : String
  allowed : Bool
  status : StatusReport
  patch : Option (List (Fin 256)) := none
  patchForm : Option PatchForm := none
  auditAnnotations : SortedMap String := ∅
  warnings : Option (List String) := none
  deriving DecidableEq

namespace ReceivedResponse

/-- The order of the values in an answer that is given as a list. -/
def row : List String :=
  ["uid", "allowed", "status", "patch", "patchType", "auditAnnotations", "warnings"]

def codec : Codec ReceivedResponse :=
  .recordOrRow row 7
    (.cons "allowed" (.required .bool) <|
      .cons "auditAnnotations" (.orMissing (.map .string) ∅) <|
      .cons "patch" (.optional (.list (.below 256))) <|
      .cons "patchType" (.optional PatchForm.codec) <|
      .cons "status" (.required StatusReport.codec) <|
      .cons "uid" (.required .string) <|
      .cons "warnings" (.optional (.list .string)) .nil)
    (by decide)
    (fun (allowed, auditAnnotations, patch, patchForm, status, uid, warnings, ()) =>
      { uid, allowed, status, patch, patchForm, auditAnnotations, warnings })
    (fun r => (r.allowed, r.auditAnnotations, r.patch, r.patchForm, r.status, r.uid, r.warnings,
      ()))
    (fun _ => rfl)

end ReceivedResponse

end TracingSidecar
