import TracingSidecar.Json.Pointer

/-!
# Patches

A patch is a list of changes to a JSON value, each at a pointer.  `Json.diff` lists the changes that
turn one value into another: objects member by member, additions and changes in the order of the
names before removals, and lists position by position; everything else is replaced as a whole.
`Patch.applyTo?` makes the changes one after the other.
-/

namespace TracingSidecar.Json

inductive Change where
  | add (pointer : Pointer) (value : Json)
  | remove (pointer : Pointer)
  | replace (pointer : Pointer) (value : Json)
  deriving DecidableEq

abbrev Patch := List Change

/-! ### Differences -/

/-- Remove the members that have no counterpart. -/
def removals (path : Pointer) (before after : List (String × Json)) : Patch :=
  (before.filter fun (key, _) => (after.lookup key).isNone).map fun (key, _) =>
    .remove (path ++ [key])

mutual

/-- The changes at and below a path that turn a value into another. -/
def diffAt (path : Pointer) (before : Json) : Json → Patch
  | .obj after =>
      match before with
      | .obj members => diffMembers path members after ++ removals path members after
      | _ => [.replace path (.obj after)]
  | .arr after =>
      match before with
      | .arr items => diffItems path 0 items after
      | _ => [.replace path (.arr after)]
  | .null => if before = .null then [] else [.replace path .null]
  | .bool value => if before = .bool value then [] else [.replace path (.bool value)]
  | .int value => if before = .int value then [] else [.replace path (.int value)]
  | .real value => if before = .real value then [] else [.replace path (.real value)]
  | .str value => if before = .str value then [] else [.replace path (.str value)]

/-- The changes for the members that an object is to have. -/
def diffMembers (path : Pointer) (before : List (String × Json)) : List (String × Json) → Patch
  | [] => []
  | (key, value) :: rest =>
      (match before.lookup key with
        | some old => diffAt (path ++ [key]) old value
        | none => [.add (path ++ [key]) value]) ++ diffMembers path before rest

/-- The changes for the items from a position on. -/
def diffItems (path : Pointer) (position : Nat) (before : List Json) : List Json → Patch
  | [] => before.map fun _ => .remove (path ++ [toString position])
  | value :: rest =>
      match before with
      | old :: more =>
          diffAt (path ++ [toString position]) old value ++
            diffItems path (position + 1) more rest
      | [] =>
          .add (path ++ [toString position]) value :: diffItems path (position + 1) [] rest

end

/-- The changes that turn a value into another. -/
def diff (before after : Json) : Patch := diffAt [] before after

/-! ### Application -/

/-- Change the value that holds what the last token of a pointer names. -/
def changeParent? (change : Json → String → Option Json) : Pointer → Json → Option Json
  | [], _ => none
  | [token], parent => change parent token
  | token :: next :: rest, .obj members => do
      let child ← members.lookup token
      let child ← changeParent? change (next :: rest) child
      some (.obj (SortedMap.insertEntry token child members))
  | token :: next :: rest, .arr items => do
      let position ← Pointer.index? token
      let child ← items[position]?
      let child ← changeParent? change (next :: rest) child
      some (.arr (items.set position child))
  | _ :: _ :: _, _ => none

/-- Bind a member, or insert an item in front of a position; `-` is the end of a list. -/
def addChild? (value : Json) (parent : Json) (token : String) : Option Json :=
  match parent with
  | .obj members => some (.obj (SortedMap.insertEntry token value members))
  | .arr items =>
      if token = "-" then some (.arr (items ++ [value]))
      else do
        let position ← Pointer.index? token
        if position ≤ items.length then some (.arr (items.insertIdx position value)) else none
  | _ => none

/-- Remove a member or an item. -/
def removeChild? (parent : Json) (token : String) : Option Json :=
  match parent with
  | .obj members =>
      if (members.lookup token).isSome then
        some (.obj (members.filter fun member => member.1 != token))
      else none
  | .arr items => do
      let position ← Pointer.index? token
      if position < items.length then some (.arr (items.eraseIdx position)) else none
  | _ => none

/-- Put a value in the place of a member or an item. -/
def replaceChild? (value : Json) (parent : Json) (token : String) : Option Json :=
  match parent with
  | .obj members =>
      if (members.lookup token).isSome then
        some (.obj (SortedMap.insertEntry token value members))
      else none
  | .arr items => do
      let position ← Pointer.index? token
      if position < items.length then some (.arr (items.set position value)) else none
  | _ => none

/-- Make one change.  A change at the empty pointer concerns the whole value. -/
def Change.applyTo? (json : Json) : Change → Option Json
  | .add [] value => some value
  | .replace [] value => some value
  | .add pointer value => changeParent? (addChild? value) pointer json
  | .remove pointer => changeParent? removeChild? pointer json
  | .replace pointer value => changeParent? (replaceChild? value) pointer json

/-- Make the changes of a patch one after the other. -/
def Patch.applyTo? (patch : Patch) (json : Json) : Option Json :=
  patch.foldlM Change.applyTo? json

/-! ### Written form -/

def Change.toJson : Change → Json
  | .add pointer value =>
      object [("op", .str "add"), ("path", .str pointer.text), ("value", value)]
  | .remove pointer => object [("op", .str "remove"), ("path", .str pointer.text)]
  | .replace pointer value =>
      object [("op", .str "replace"), ("path", .str pointer.text), ("value", value)]

/-- The change that a JSON value describes. -/
def Change.ofJson? (json : Json) : Option Change :=
  match json.member? "op", json.member? "path", json.member? "value" with
  | some (.str op), some (.str path), value? =>
      match op, Pointer.parse? path, value? with
      | "add", some pointer, some value => some (.add pointer value)
      | "replace", some pointer, some value => some (.replace pointer value)
      | "remove", some pointer, _ => some (.remove pointer)
      | _, _, _ => none
  | _, _, _ => none

def Patch.toJson (patch : Patch) : Json := .arr (patch.map Change.toJson)

def Patch.ofJson? : Json → Option Patch
  | .arr changes => changes.mapM Change.ofJson?
  | _ => none

end TracingSidecar.Json
