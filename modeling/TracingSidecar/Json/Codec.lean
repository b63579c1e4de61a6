import TracingSidecar.Json.Draft

/-!
# Codecs

A `Codec` ties a type to its written form: writing never yields null, what is written is in order,
and reading it gives the value back.  Lists, maps and choices keep these laws.  What is read is a
draft, and of several things that are wrong with it the first in the order of its text decides about
the refusal.
-/

namespace TracingSidecar

/-- A type with its written form. -/
structure Codec (α : Type) where
  encode : α → Json
  read : Json.Draft → Except Json.Refusal α
  read_encode : ∀ value, read (encode value).draft = .ok value
  encode_ne_null : ∀ value, encode value ≠ .null
  encode_ordered : ∀ value, (encode value).Ordered

namespace Codec

open Json (Draft Refusal)

variable {α β : Type}

/-- The value that is written as a JSON value. -/
def decode (codec : Codec α) (json : Json) : Option α := (codec.read json.draft).toOption

@[simp] theorem decode_encode (codec : Codec α) (value : α) :
    codec.decode (codec.encode value) = some value := by
  rw [decode, codec.read_encode]
  rfl

def string : Codec String where
  encode := .str
  read := Draft.readScalar fun
    | .str text => some text
    | _ => none
  read_encode _ := rfl
  encode_ne_null := Json.str_ne_null
  encode_ordered := .str

def bool : Codec Bool where
  encode := .bool
  read := Draft.readScalar fun
    | .bool value => some value
    | _ => none
  read_encode _ := rfl
  encode_ne_null := Json.bool_ne_null
  encode_ordered := .bool

/-- Integers of 32 bits.  A number with a fraction part, even a zero one, is refused. -/
def int32 : Codec Int32 where
  encode value := .int value.toInt
  read := Draft.readScalar fun
    | .int n =>
        if Int32.minValue.toInt ≤ n ∧ n ≤ Int32.maxValue.toInt then some (Int32.ofInt n) else none
    | _ => none
  read_encode value := by
    have h : Int32.minValue.toInt ≤ value.toInt ∧ value.toInt ≤ Int32.maxValue.toInt :=
      ⟨value.minValue_le_toInt, value.toInt_le⟩
    simp only [Json.draft, Draft.readScalar, if_pos h, Int32.ofInt_toInt]
  encode_ne_null _ := nofun
  encode_ordered _ := .int _

/-- Integers of 64 bits. -/
def int64 : Codec Int64 where
  encode value := .int value.toInt
  read := Draft.readScalar fun
    | .int n =>
        if Int64.minValue.toInt ≤ n ∧ n ≤ Int64.maxValue.toInt then some (Int64.ofInt n) else none
    | _ => none
  read_encode value := by
    have h : Int64.minValue.toInt ≤ value.toInt ∧ value.toInt ≤ Int64.maxValue.toInt :=
      ⟨value.minValue_le_toInt, value.toInt_le⟩
    simp only [Json.draft, Draft.readScalar, if_pos h, Int64.ofInt_toInt]
  encode_ne_null _ := nofun
  encode_ordered _ := .int _

/-- Natural numbers below a bound. -/
def below (bound : Nat) : Codec (Fin bound) where
  encode n := .int n.val
  read := Draft.readScalar fun
    | .int n =>
        if h : 0 ≤ n ∧ n.toNat < bound then some ⟨n.toNat, h.2⟩ else none
    | _ => none
  read_encode n := by
    simp [Json.draft, Draft.readScalar]
  encode_ne_null _ := nofun
  encode_ordered _ := .int _

/-- Another representation of the same values. -/
def iso (codec : Codec α) (pack : α → β) (unpack : β → α)
    (inverse : ∀ value, pack (unpack value) = value) : Codec β where
  encode value := codec.encode (unpack value)
  read draft := (codec.read draft).map pack
  read_encode value := by simp [codec.read_encode, inverse, Except.map]
  encode_ne_null value := codec.encode_ne_null _
  encode_ordered value := codec.encode_ordered _

/-- Read items up to the first one that is refused. -/
def readItems (item : Codec α) : List Draft → Except Refusal (List α)
  | [] => .ok []
  | draft :: rest =>
      match item.read draft with
      | .error refusal => .error refusal
      | .ok value => (readItems item rest).map (value :: ·)

theorem readItems_map_encode (item : Codec α) (values : List α) :
    readItems item (Json.draftItems (values.map item.encode)) = .ok values := by
  induction values with
  | nil => rfl
  | cons value values ih =>
    simp [Json.draftItems, readItems, item.read_encode, ih, Except.map]

/-- Lists, in their order. -/
def list (item : Codec α) : Codec (List α) where
  encode values := .arr (values.map item.encode)
  read
    | .list level items closed => Draft.enclosed level closed (readItems item items)
    | draft => .error draft.refusal
  read_encode values := by
    simp [Json.draft, readItems_map_encode]
  encode_ne_null _ := nofun
  encode_ordered values := by
    refine .arr _ fun json member => ?_
    obtain ⟨value, -, rfl⟩ := List.mem_map.1 member
    exact item.encode_ordered value

/-- Read bindings up to the first one that is refused. -/
def readBindings (item : Codec α) :
    List (Option String × Draft) → Except Refusal (List (String × α))
  | [] => .ok []
  | (none, _) :: _ => .error .malformed
  | (some key, draft) :: rest =>
      match item.read draft with
      | .error refusal => .error refusal
      | .ok value => (readBindings item rest).map ((key, value) :: ·)

theorem readBindings_map_encode (item : Codec α) (bindings : List (String × α)) :
    readBindings item
        (Json.draftMembers (bindings.map fun (key, value) => (key, item.encode value))) =
      .ok bindings := by
  induction bindings with
  | nil => rfl
  | cons binding bindings ih =>
    simp [Json.draftMembers, readBindings, item.read_encode, ih, Except.map]

/-- Maps from texts, as objects.  Of two bindings for one key the later counts. -/
def map (item : Codec α) : Codec (SortedMap α) where
  encode m := .obj (m.entries.map fun (key, value) => (key, item.encode value))
  read
    | .object level members closed =>
        Draft.enclosed level closed ((readBindings item members).map SortedMap.ofList)
    | draft => .error draft.refusal
  read_encode m := by
    simp [Json.draft, readBindings_map_encode, Except.map]
  encode_ne_null _ := nofun
  encode_ordered m := by
    refine .obj _ (List.pairwise_map.2 m.ascend) fun json member => ?_
    obtain ⟨binding, -, rfl⟩ := List.mem_map.1 member
    exact item.encode_ordered binding.2

/-- Read the object form of a choice: one member, whose name is the choice and which is null. -/
def readChosen (ofName : String → Option α) (closed : Bool) :
    List (Option String × Draft) → Except Refusal α
  | [] | (none, _) :: _ => .error .malformed
  | (some name, draft) :: rest =>
      match ofName name, draft with
      | none, _ => .error .unfit
      | some value, .scalar (some .null) =>
          if rest.isEmpty && closed then .ok value else .error .malformed
      | some _, draft => .error draft.refusal

/-- A choice among values by their names.  It is written as a text, and may also be given as an
object with the name as its only member.  Anything else is not even looked into. -/
def choice (name : α → String) (ofName : String → Option α)
    (inverse : ∀ value, ofName (name value) = some value) : Codec α where
  encode value := .str (name value)
  read
    | .scalar (some (.str text)) =>
        match ofName text with
        | some value => .ok value
        | none => .error .unfit
    | .object level members closed =>
        if level ≤ Draft.maxLevel then readChosen ofName closed members else .error .malformed
    | _ => .error .malformed
  read_encode value := by simp [Json.draft, inverse]
  encode_ne_null _ := nofun
  encode_ordered _ := .str _

end Codec

end TracingSidecar
