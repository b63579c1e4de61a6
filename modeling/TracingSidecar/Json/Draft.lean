import TracingSidecar.Json.Basic

/-!
# Drafts

A draft is what a text holds before anything is asked of it.  The members of an object are there in
their order, with repeated names, and a draft shows where its text stops being JSON, so that a
reader meets what is wrong with a text in the order of the text.  `Json.draft` is the draft of a
value, and `Draft.value?` the value of a draft that has one.
-/

namespace TracingSidecar.Json

/-- Why a text is refused: it is no JSON text, or it says something else than what was asked for. -/
inductive Refusal where
  | malformed | unfit
  deriving DecidableEq, Repr

inductive Draft where
  /-- Nothing that could be a value. -/
  | broken
  /-- A value without parts.  A numeral that is too large and a text with half of a pair of code
  units have none. -/
  | scalar (value : Option Json)
  /-- A list, with the number of lists and objects it lies in, itself included. -/
  | list (level : Nat) (items : List Draft) (closed : Bool)
  /-- An object, with its level.  A name with half of a pair of code units is no text. -/
  | object (level : Nat) (members : List (Option String × Draft)) (closed : Bool)

namespace Draft

/-- How deep lists and objects nest that are looked into. -/
def maxLevel : Nat := 127

/-- Why a draft is refused where something else is asked for. -/
def refusal : Draft → Refusal
  | .broken => .malformed
  | .scalar none => .malformed
  | _ => .unfit

mutual

/-- Whether a draft goes on to its end.  What nobody looks into may nest at will. -/
def isWhole : Draft → Bool
  | .broken => false
  | .scalar _ => true
  | .list _ items closed => areWhole items && closed
  | .object _ members closed => areWholeMembers members && closed

def areWhole : List Draft → Bool
  | [] => true
  | item :: rest => item.isWhole && areWhole rest

def areWholeMembers : List (Option String × Draft) → Bool
  | [] => true
  | (_, draft) :: rest => draft.isWhole && areWholeMembers rest

end

mutual

/-- The value of a draft.  Of two members with one name the later counts. -/
def value? : Draft → Option Json
  | .broken => none
  | .scalar value => value
  | .list level items closed =>
      if level ≤ maxLevel && closed then (values? items).map .arr else none
  | .object level members closed =>
      if level ≤ maxLevel && closed then (valuesOfMembers? members).map Json.object else none

def values? : List Draft → Option (List Json)
  | [] => some []
  | item :: rest =>
      match item.value?, values? rest with
      | some value, some values => some (value :: values)
      | _, _ => none

def valuesOfMembers? : List (Option String × Draft) → Option (List (String × Json))
  | [] => some []
  | (some name, draft) :: rest =>
      match draft.value?, valuesOfMembers? rest with
      | some value, some values => some ((name, value) :: values)
      | _, _ => none
  | (none, _) :: _ => none

end

variable {α : Type}

/-- Read a value without parts. -/
def readScalar (read : Json → Option α) : Draft → Except Refusal α
  | .scalar (some json) =>
      match read json with
      | some value => .ok value
      | none => .error .unfit
  | draft => .error draft.refusal

/-- Read what a list or an object of some level holds, up to its closing bracket. -/
def enclosed (level : Nat) (closed : Bool) (content : Except Refusal α) : Except Refusal α :=
  if level ≤ maxLevel then
    match content with
    | .ok value => if closed then .ok value else .error .malformed
    | .error refusal => .error refusal
  else .error .malformed

@[simp] theorem enclosed_zero (content : Except Refusal α) : enclosed 0 true content = content := by
  cases content <;> rfl

end Draft

mutual

/-- The draft of a value. -/
def draft : Json → Draft
  | .arr items => .list 0 (draftItems items) true
  | .obj members => .object 0 (draftMembers members) true
  | .null => .scalar (some .null)
  | .bool value => .scalar (some (.bool value))
  | .int value => .scalar (some (.int value))
  | .real value => .scalar (some (.real value))
  | .str value => .scalar (some (.str value))

def draftItems : List Json → List Draft
  | [] => []
  | item :: rest => item.draft :: draftItems rest

def draftMembers : List (String × Json) → List (Option String × Draft)
  | [] => []
  | (name, value) :: rest => (some name, value.draft) :: draftMembers rest

end

theorem draft_ne_null {json : Json} (h : json ≠ .null) : json.draft ≠ .scalar (some .null) := by
  cases json <;> simp_all [draft]

theorem values?_draftItems {items : List Json} (h : ∀ item ∈ items, item.draft.value? = some item) :
    Draft.values? (draftItems items) = some items := by
  induction items with
  | nil => rfl
  | cons item rest ih =>
    simp [draftItems, Draft.values?, h item List.mem_cons_self,
      ih fun other hother => h other (List.mem_cons_of_mem _ hother)]

theorem valuesOfMembers?_draftMembers {members : List (String × Json)}
    (h : ∀ member ∈ members, member.2.draft.value? = some member.2) :
    Draft.valuesOfMembers? (draftMembers members) = some members := by
  induction members with
  | nil => rfl
  | cons member rest ih =>
    simp [draftMembers, Draft.valuesOfMembers?, h member List.mem_cons_self,
      ih fun other hother => h other (List.mem_cons_of_mem _ hother)]

end TracingSidecar.Json
