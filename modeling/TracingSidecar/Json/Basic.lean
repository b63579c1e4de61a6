import TracingSidecar.SortedMap
import TracingSidecar.Decimal.Binary64

/-!
# JSON values

Numbers are integers of at most 64 bits or double-precision numbers.  The members of an object are
kept in ascending key order with distinct keys; `Json.object` builds such an object from members in
any order, and a value is `Ordered` if all its objects are such.
-/

namespace TracingSidecar

inductive Json where
  | null
  | bool (value : Bool)
  | int (value : Int)
  | real (value : Binary64)
  | str (value : String)
  | arr (items : List Json)
  | obj (members : List (String × Json))
  deriving Inhabited

namespace Json

mutual

/-- Equality of JSON values can be decided. -/
def decEq : (a b : Json) → Decidable (a = b)
  | .null, b =>
      match b with
      | .null => isTrue rfl
      | .bool _ | .int _ | .real _ | .str _ | .arr _ | .obj _ => isFalse nofun
  | .bool x, b =>
      match b with
      | .bool y => if h : x = y then isTrue (h ▸ rfl) else isFalse fun e => h (Json.bool.inj e)
      | .null | .int _ | .real _ | .str _ | .arr _ | .obj _ => isFalse nofun
  | .int x, b =>
      match b with
      | .int y => if h : x = y then isTrue (h ▸ rfl) else isFalse fun e => h (Json.int.inj e)
      | .null | .bool _ | .real _ | .str _ | .arr _ | .obj _ => isFalse nofun
  | .real x, b =>
      match b with
      | .real y => if h : x = y then isTrue (h ▸ rfl) else isFalse fun e => h (Json.real.inj e)
      | .null | .bool _ | .int _ | .str _ | .arr _ | .obj _ => isFalse nofun
  | .str x, b =>
      match b with
      | .str y => if h : x = y then isTrue (h ▸ rfl) else isFalse fun e => h (Json.str.inj e)
      | .null | .bool _ | .int _ | .real _ | .arr _ | .obj _ => isFalse nofun
  | .arr xs, b =>
      match b with
      | .arr ys =>
          match decEqItems xs ys with
          | isTrue h => isTrue (h ▸ rfl)
          | isFalse h => isFalse fun e => h (Json.arr.inj e)
      | .null | .bool _ | .int _ | .real _ | .str _ | .obj _ => isFalse nofun
  | .obj xs, b =>
      match b with
      | .obj ys =>
          match decEqMembers xs ys with
          | isTrue h => isTrue (h ▸ rfl)
          | isFalse h => isFalse fun e => h (Json.obj.inj e)
      | .null | .bool _ | .int _ | .real _ | .str _ | .arr _ => isFalse nofun

def decEqItems : (a b : List Json) → Decidable (a = b)
  | [], [] => isTrue rfl
  | [], _ :: _ => isFalse nofun
  | _ :: _, [] => isFalse nofun
  | x :: xs, y :: ys =>
      match decEq x y, decEqItems xs ys with
      | isTrue h, isTrue hs => isTrue (by rw [h, hs])
      | isFalse h, _ => isFalse fun e => h (List.cons.inj e).1
      | _, isFalse hs => isFalse fun e => hs (List.cons.inj e).2

def decEqMembers : (a b : List (String × Json)) → Decidable (a = b)
  | [], [] => isTrue rfl
  | [], _ :: _ => isFalse nofun
  | _ :: _, [] => isFalse nofun
  | (k, x) :: xs, (l, y) :: ys =>
      if hk : k = l then
        match decEq x y, decEqMembers xs ys with
        | isTrue h, isTrue hs => isTrue (by rw [hk, h, hs])
        | isFalse h, _ => isFalse fun e => h (Prod.mk.inj (List.cons.inj e).1).2
        | _, isFalse hs => isFalse fun e => hs (List.cons.inj e).2
      else isFalse fun e => hk (Prod.mk.inj (List.cons.inj e).1).1

end

instance : DecidableEq Json := decEq

/-- All objects of a value have their members in ascending order. -/
inductive Ordered : Json → Prop
  | null : Ordered .null
  | bool (value : Bool) : Ordered (.bool value)
  | int (value : Int) : Ordered (.int value)
  | real (value : Binary64) : Ordered (.real value)
  | str (value : String) : Ordered (.str value)
  | arr (items : List Json) (inner : ∀ item ∈ items, Ordered item) : Ordered (.arr items)
  | obj (members : List (String × Json)) (ascend : KeysAscend members)
      (inner : ∀ member ∈ members, Ordered member.2) : Ordered (.obj members)

theorem bool_ne_null (value : Bool) : Json.bool value ≠ .null := nofun

theorem str_ne_null (value : String) : Json.str value ≠ .null := nofun

/-- An object from members in any order; of two members with one key the later counts. -/
def object (members : List (String × Json)) : Json := .obj (SortedMap.ofList members).entries

/-- A member of an object, as it is found. -/
def member? (key : String) : Json → Option Json
  | .obj members => members.lookup key
  | _ => none

/-- A text or null. -/
def optStr : Option String → Json
  | some text => .str text
  | none => .null

/-- A list of texts. -/
def strs (texts : List String) : Json := .arr (texts.map .str)

/-- An object with a text for each key. -/
def ofTexts (texts : SortedMap String) : Json :=
  .obj (texts.entries.map fun (key, text) => (key, .str text))

end Json

end TracingSidecar
