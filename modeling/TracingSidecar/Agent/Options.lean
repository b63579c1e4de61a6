import TracingSidecar.Json.Codec
import TracingSidecar.Json.Printer
import TracingSidecar.Text.Cut

/-!
# Agent options

Options are a flat map from dotted flag names to lists of values.  They are written as an object
and may be given as nested objects, whose leaves get the dotted path as their name; of two leaves
with one path the later in depth-first order counts.  `Options.toArgs` renders one argument for each
value, in ascending order.
-/

namespace TracingSidecar.Agent

structure Options where
  values : SortedMap (List String) := ∅
  deriving DecidableEq, Inhabited

namespace Options

def empty : Options := {}

def isEmpty (o : Options) : Bool := o.values.isEmpty

/-- Give an option one value, in place of all it had. -/
def insert (o : Options) (key value : String) : Options := ⟨o.values.insert key [value]⟩

def get? (o : Options) (key : String) : Option (List String) := o.values.get? key

/-- Options with the same values are equal. -/
theorem ext_get? {a b : Options} (h : ∀ key, a.get? key = b.get? key) : a = b := by
  cases a
  cases b
  exact congrArg mk (SortedMap.ext_get? h)

/-! ### Nested objects -/

/-- The name of a member of the object at a path. -/
def dotted (path key : String) : String := if path = "" then key else path ++ "." ++ key

/-- A value that is not a text stands for its compact JSON text. -/
def valueText : Json → String
  | .str text => text
  | json => json.compact

mutual

/-- The leaves at and below a value, in depth-first order.  Null is no leaf; a list is one leaf
with a value for each item. -/
def leaves (path : String) : Json → List (String × List String)
  | .null => []
  | .obj members => leavesOfMembers path members
  | .arr items => [(path, items.map valueText)]
  | .bool value => [(path, [valueText (.bool value)])]
  | .int value => [(path, [valueText (.int value)])]
  | .real value => [(path, [valueText (.real value)])]
  | .str text => [(path, [text])]

def leavesOfMembers (path : String) : List (String × Json) → List (String × List String)
  | [] => []
  | (key, value) :: rest => leaves (dotted path key) value ++ leavesOfMembers path rest

end

/-- The options given by the members of an object. -/
def ofMembers (members : List (String × Json)) : Options :=
  ⟨SortedMap.ofList (leavesOfMembers "" members)⟩

/-! ### Written form -/

/-- A single value is written as a text, any other number of values as a list. -/
def valuesJson : List String → Json
  | [value] => .str value
  | values => Json.strs values

theorem leaves_valuesJson (key : String) (values : List String) :
    leaves key (valuesJson values) = [(key, values)] := by
  unfold valuesJson
  split
  · rfl
  · have hid : (valueText ∘ Json.str) = id := rfl
    simp [Json.strs, leaves, hid]

theorem leavesOfMembers_map_valuesJson (entries : List (String × List String)) :
    leavesOfMembers "" (entries.map fun (key, values) => (key, valuesJson values)) = entries := by
  induction entries with
  | nil => rfl
  | cons entry rest ih => simp [leavesOfMembers, dotted, leaves_valuesJson, ih]

theorem value?_draft_valuesJson (values : List String) :
    (valuesJson values).draft.value? = some (valuesJson values) := by
  have h : Json.Draft.values? (Json.draftItems (values.map Json.str)) = some (values.map .str) :=
    Json.values?_draftItems fun item hitem => by
      obtain ⟨text, _, rfl⟩ := List.mem_map.1 hitem
      rfl
  unfold valuesJson
  split
  · rfl
  · simp [Json.strs, Json.draft, Json.Draft.value?, h]

theorem ordered_valuesJson (values : List String) : (valuesJson values).Ordered := by
  unfold valuesJson
  split
  next value => exact .str value
  next =>
    refine .arr _ fun json member => ?_
    obtain ⟨text, -, rfl⟩ := List.mem_map.1 member
    exact .str text

/-- The members of the object that options are written as. -/
def members (o : Options) : List (String × Json) :=
  o.values.entries.map fun (key, values) => (key, valuesJson values)

theorem keysAscend_members (o : Options) : KeysAscend o.members :=
  List.pairwise_map.2 o.values.ascend

theorem value?_draft_members (o : Options) :
    (Json.obj o.members).draft.value? = some (.obj o.members) := by
  have h : Json.Draft.valuesOfMembers? (Json.draftMembers o.members) = some o.members :=
    Json.valuesOfMembers?_draftMembers fun member hmember => by
      obtain ⟨entry, _, rfl⟩ := List.mem_map.1 hmember
      exact value?_draft_valuesJson entry.2
  simp [Json.draft, Json.Draft.value?, h, Json.object,
    SortedMap.entries_ofList o.keysAscend_members]

/-- The options that a value gives. -/
def ofJson : Json → Except Json.Refusal Options
  | .obj members => .ok (ofMembers members)
  | _ => .error .unfit

def codec : Codec Options where
  encode o := .obj o.members
  read draft :=
    match draft.value? with
    | some json => ofJson json
    | none => .error .malformed
  read_encode o := by
    simp only [value?_draft_members, ofJson, ofMembers]
    simp [members, leavesOfMembers_map_valuesJson]
  encode_ne_null _ := nofun
  encode_ordered o := by
    refine .obj _ o.keysAscend_members fun member listed => ?_
    obtain ⟨entry, -, rfl⟩ := List.mem_map.1 listed
    exact ordered_valuesJson entry.2

/-! ### Arguments -/

/-- The option that an argument sets: `--key=value`, or `--key` for the value `true`. -/
def ofArgument? (argument : String) : Option (String × String) :=
  (Text.stripPrefix? "--" argument).map fun flag =>
    (Text.splitFirst? '=' flag).getD (flag, "true")

/-- Add a value behind those that an option has. -/
def push (o : Options) (key value : String) : Options :=
  ⟨o.values.insert key ((o.values.get? key).getD [] ++ [value])⟩

/-- The options set by arguments; an argument that does not begin with two dashes is ignored. -/
def ofArgs (args : List String) : Options :=
  (args.filterMap ofArgument?).foldl (fun o (key, value) => o.push key value) empty

/-- The argument for one value of an option. -/
def argument (key value : String) : String := "--" ++ key ++ "=" ++ value

/-- One argument for each value, in ascending order. -/
def toArgs (o : Options) : List String :=
  (o.values.entries.flatMap fun (key, values) => values.map (argument key)).mergeSort

end Options

end TracingSidecar.Agent
