import TracingSidecar.Json.Record

/-!
# Object metadata

Names, labels, annotations and the bookkeeping of a cluster object.  A time is kept as it is
written, provided that it names a second of the calendar in coordinated universal time.

`deletionGracePeriodSeconds`, `managedFields` and `selfLink` are left out; decoding drops them.
-/

namespace TracingSidecar

/-- Whether a year of the Gregorian calendar has a 29th of February. -/
def isLeapYear (year : Nat) : Bool := year % 4 = 0 && (year % 100 ≠ 0 || year % 400 = 0)

/-- The number of days of a month, numbered from one. -/
def daysInMonth (year month : Nat) : Nat :=
  match month with
  | 2 => if isLeapYear year then 29 else 28
  | 4 | 6 | 9 | 11 => 30
  | _ => 31

private def number (digits : List Char) : Nat :=
  digits.foldl (fun n c => n * 10 + (c.toNat - '0'.toNat)) 0

/-- A time of the form `YYYY-MM-DDTHH:MM:SSZ` that exists; a second 60 may be a leap second. -/
def isTimestamp (text : String) : Bool :=
  match text.toList with
  | [y₁, y₂, y₃, y₄, '-', m₁, m₂, '-', d₁, d₂, 'T', h₁, h₂, ':', n₁, n₂, ':', s₁, s₂, 'Z'] =>
      let year := number [y₁, y₂, y₃, y₄]
      let month := number [m₁, m₂]
      let day := number [d₁, d₂]
      [y₁, y₂, y₃, y₄, m₁, m₂, d₁, d₂, h₁, h₂, n₁, n₂, s₁, s₂].all Char.isDigit
        && 1 ≤ month && month ≤ 12 && 1 ≤ day && day ≤ daysInMonth year month
        && number [h₁, h₂] ≤ 23 && number [n₁, n₂] ≤ 59 && number [s₁, s₂] ≤ 60
  | _ => false

/-- A point in time, as it is written. -/
structure Timestamp where
  text : String
  valid : isTimestamp text = true
  deriving DecidableEq

def Timestamp.codec : Codec Timestamp where
  encode time := .str time.text
  read := Json.Draft.readScalar fun
    | .str text => if h : isTimestamp text = true then some ⟨text, h⟩ else none
    | _ => none
  read_encode time := by
    simp [Json.draft, Json.Draft.readScalar, time.valid]
  encode_ne_null _ := nofun
  encode_ordered time := .str time.text

/-- The object that another object belongs to. -/
structure OwnerReference where
  apiVersion : String := ""
  blockOwnerDeletion : Option Bool := none
  controller : Option Bool := none
  kind : String := ""
  name : String := ""
  uid : String := ""
  deriving DecidableEq

def OwnerReference.codec : Codec OwnerReference :=
  .record
    (.cons "apiVersion" (.orZero .string "") <|
      .cons "blockOwnerDeletion" (.optional .bool) <|
      .cons "controller" (.optional .bool) <|
      .cons "kind" (.orZero .string "") <|
      .cons "name" (.orZero .string "") <|
      .cons "uid" (.orZero .string "") .nil)
    (by decide)
    (fun (apiVersion, blockOwnerDeletion, controller, kind, name, uid, ()) =>
      { apiVersion, blockOwnerDeletion, controller, kind, name, uid })
    (fun o => (o.apiVersion, o.blockOwnerDeletion, o.controller, o.kind, o.name, o.uid, ()))
    (fun _ => rfl)

/-- The metadata of an object. -/
structure ObjectMeta where
  annotations : Option (SortedMap String) := none
  creationTimestamp : Option Timestamp := none
  deletionTimestamp : Option Timestamp := none
  finalizers : Option (List String) := none
  generateName : Option String := none
  generation : Option Int64 := none
  labels : Option (SortedMap String) := none
  name : Option String := none
  namespaceName : Option String := none
  ownerReferences : Option (List OwnerReference) := none
  resourceVersion : Option String := none
  uid : Option String := none
  deriving DecidableEq, Inhabited

namespace ObjectMeta

def codec : Codec ObjectMeta :=
  .record
    (.cons "annotations" (.optional (.map .string)) <|
      .cons "creationTimestamp" (.optional Timestamp.codec) <|
      .cons "deletionTimestamp" (.optional Timestamp.codec) <|
      .cons "finalizers" (.optional (.list .string)) <|
      .cons "generateName" (.optional .string) <|
      .cons "generation" (.optional .int64) <|
      .cons "labels" (.optional (.map .string)) <|
      .cons "name" (.optional .string) <|
      .cons "namespace" (.optional .string) <|
      .cons "ownerReferences" (.optional (.list OwnerReference.codec)) <|
      .cons "resourceVersion" (.optional .string) <|
      .cons "uid" (.optional .string) .nil)
    (by decide)
    (fun (annotations, creationTimestamp, deletionTimestamp, finalizers, generateName, generation,
        labels, name, namespaceName, ownerReferences, resourceVersion, uid, ()) =>
      { annotations, creationTimestamp, deletionTimestamp, finalizers, generateName, generation,
        labels, name, namespaceName, ownerReferences, resourceVersion, uid })
    (fun m => (m.annotations, m.creationTimestamp, m.deletionTimestamp, m.finalizers,
      m.generateName, m.generation, m.labels, m.name, m.namespaceName, m.ownerReferences,
      m.resourceVersion, m.uid, ()))
    (fun _ => rfl)

/-- The name of the object, or the beginning of the name it will get, or the empty text. -/
def anyName (m : ObjectMeta) : String := (m.name.or m.generateName).getD ""

/-- The value of a label. -/
def label? (m : ObjectMeta) (key : String) : Option String := m.labels.bind (·.get? key)

/-- The value of an annotation. -/
def annotation? (m : ObjectMeta) (key : String) : Option String :=
  m.annotations.bind (·.get? key)

/-- Whether the object is on its way out. -/
def isTerminating (m : ObjectMeta) : Bool := m.deletionTimestamp.isSome

/-- Whether a controller owns the object. -/
def isControlled (m : ObjectMeta) : Bool :=
  (m.ownerReferences.getD []).any fun owner => owner.controller = some true

/-- Set a label; the labels are created if there are none. -/
def setLabel (m : ObjectMeta) (key value : String) : ObjectMeta :=
  { m with labels := some ((m.labels.getD ∅).insert key value) }

/-- Remove a label; what remains is a set of labels, if an empty one. -/
def removeLabel (m : ObjectMeta) (key : String) : ObjectMeta :=
  { m with labels := some ((m.labels.getD ∅).erase key) }

/-- Add the annotations whose keys are not in use. -/
def fillAnnotations (m : ObjectMeta) (defaults : SortedMap String) : ObjectMeta :=
  { m with annotations := some ((m.annotations.getD ∅).fill defaults.entries) }

end ObjectMeta

end TracingSidecar
