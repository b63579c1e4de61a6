import TracingSidecar.Json.Codec

/-!
# Records

A record is written as an object.  A `Member` says how one of its members is written, whether it is
shown at all, and how it is read back when it is there or missing.  A `Shape` lists the members by
name in ascending order, so that the written object is in order, and `Codec.record` is the codec of
the record.  A member that the shape does not name is ignored, but it has to be whole.
-/

namespace TracingSidecar

open Json (Draft Refusal)

/-- One member of a record: written as `none` it is not there. -/
structure Member (α : Type) where
  write : α → Option Json
  read : Draft → Except Refusal α
  /-- What the member is if it is missing; some members have to be there. -/
  missing : Option α
  read_write : ∀ value json, write value = some json → read json.draft = .ok value
  missing_write : ∀ value, write value = none → missing = some value
  write_ordered : ∀ value json, write value = some json → json.Ordered

namespace Member

variable {α : Type}

/-- A member that may be absent; null is absent too. -/
def optional (codec : Codec α) : Member (Option α) where
  write value := value.map codec.encode
  read
    | .scalar (some .null) => .ok none
    | draft => (codec.read draft).map some
  missing := some none
  read_write value json h := by
    obtain ⟨value, rfl, rfl⟩ := Option.map_eq_some_iff.1 h
    have hn := Json.draft_ne_null (codec.encode_ne_null value)
    have hr := codec.read_encode value
    split <;> simp_all [Except.map]
  missing_write value h := by
    rw [Option.map_eq_none_iff.1 h]
  write_ordered value json h := by
    obtain ⟨value, -, rfl⟩ := Option.map_eq_some_iff.1 h
    exact codec.encode_ordered value

/-- A member that is always shown; missing or null it has its zero value. -/
def orZero (codec : Codec α) (zero : α) : Member α where
  write value := some (codec.encode value)
  read
    | .scalar (some .null) => .ok zero
    | draft => codec.read draft
  missing := some zero
  read_write value json h := by
    cases h
    have hn := Json.draft_ne_null (codec.encode_ne_null value)
    have hr := codec.read_encode value
    split <;> simp_all
  missing_write _ := nofun
  write_ordered value json h := by
    cases h
    exact codec.encode_ordered value

/-- A member that is always shown; missing it has its zero value, null it is refused. -/
def orMissing (codec : Codec α) (zero : α) : Member α where
  write value := some (codec.encode value)
  read := codec.read
  missing := some zero
  read_write value json h := by
    cases h
    exact codec.read_encode value
  missing_write _ := nofun
  write_ordered value json h := by
    cases h
    exact codec.encode_ordered value

/-- A member that is hidden while it is empty; null it is refused. -/
def unlessEmpty [DecidableEq α] (codec : Codec α) (empty : α) : Member α where
  write value := if value = empty then none else some (codec.encode value)
  read := codec.read
  missing := some empty
  read_write value json h := by
    split at h
    · cases h
    · cases h
      exact codec.read_encode value
  missing_write value h := by
    split at h
    · rename_i he
      rw [he]
    · cases h
  write_ordered value json h := by
    split at h
    · cases h
    · cases h
      exact codec.encode_ordered value

/-- A member that has to be there. -/
def required (codec : Codec α) : Member α where
  write value := some (codec.encode value)
  read := codec.read
  missing := none
  read_write value json h := by
    cases h
    exact codec.read_encode value
  missing_write _ := nofun
  write_ordered value json h := by
    cases h
    exact codec.encode_ordered value

/-- A member with one possible text; it may be missing. -/
def constant (text : String) : Member Unit where
  write _ := some (.str text)
  read := Draft.readScalar fun json => if json = .str text then some () else none
  missing := some ()
  read_write _ json h := by
    cases h
    simp [Json.draft, Draft.readScalar]
  missing_write _ := nofun
  write_ordered _ json h := by
    cases h
    exact .str text

/-- A member that may have any value.  It is not used and never written. -/
def unused : Member Unit where
  write _ := none
  read draft := if draft.value?.isSome then .ok () else .error .malformed
  missing := some ()
  read_write _ _ := nofun
  missing_write _ _ := rfl
  write_ordered _ _ := nofun

/-- A member that is written with a fixed text and never looked at. -/
def stamp (text : String) : Member Unit where
  write _ := some (.str text)
  read draft := if draft.isWhole then .ok () else .error .malformed
  missing := some ()
  read_write _ json h := by
    cases h
    rfl
  missing_write _ := nofun
  write_ordered _ json h := by
    cases h
    exact .str text

end Member

/-- The named members of a record whose values form a tuple of type `τ`.  A tuple of type `σ` has a
slot for each of them, which is filled when the member is read. -/
inductive Shape : (σ τ : Type) → Type 1
  | nil : Shape Unit Unit
  | cons {α σ τ : Type} (name : String) (member : Member α) (rest : Shape σ τ) :
      Shape (Option α × σ) (α × τ)

namespace Shape

variable {α σ τ : Type}

def names {σ τ : Type} : Shape σ τ → List String
  | .nil => []
  | .cons name _ rest => name :: rest.names

/-- The members that are shown. -/
def write {σ τ : Type} : Shape σ τ → τ → List (String × Json)
  | .nil, _ => []
  | .cons name member rest, (value, values) =>
      match member.write value with
      | none => rest.write values
      | some json => (name, json) :: rest.write values

/-- Nothing has been read. -/
def vacant {σ τ : Type} : Shape σ τ → σ
  | .nil => ()
  | .cons _ _ rest => (none, rest.vacant)

/-- Read one member.  With `once`, a name is refused where it stands for the second time; otherwise
the later member counts. -/
def put {σ τ : Type} (once : Bool) (name : String) (draft : Draft) :
    Shape σ τ → σ → Except Refusal σ
  | .nil, _ => if draft.isWhole then .ok () else .error .malformed
  | .cons own member rest, (slot, slots) =>
      if own = name then
        if once && slot.isSome then .error .unfit
        else (member.read draft).map fun value => (some value, slots)
      else (rest.put once name draft slots).map fun slots => (slot, slots)

/-- Read members up to the first one that is refused. -/
def putAll (once : Bool) (shape : Shape σ τ) :
    List (Option String × Draft) → σ → Except Refusal σ
  | [], slots => .ok slots
  | (none, _) :: _, _ => .error .malformed
  | (some name, draft) :: rest, slots =>
      match shape.put once name draft slots with
      | .error refusal => .error refusal
      | .ok slots => shape.putAll once rest slots

/-- The values of a record, unless a member is missing that has to be there. -/
def finish {σ τ : Type} : Shape σ τ → σ → Except Refusal τ
  | .nil, _ => .ok ()
  | .cons _ member rest, (slot, slots) =>
      match slot.or member.missing, rest.finish slots with
      | some value, .ok values => .ok (value, values)
      | _, _ => .error .unfit

/-- Whether names stand in strictly ascending order. -/
def ascending : List String → Bool
  | [] => true
  | [_] => true
  | a :: b :: rest => decide (a < b) && ascending (b :: rest)

theorem lt_of_ascending {name : String} {names : List String}
    (h : ascending (name :: names) = true) : ∀ other ∈ names, name < other := by
  induction names generalizing name with
  | nil => nofun
  | cons next names ih =>
    simp only [ascending, Bool.and_eq_true, decide_eq_true_eq] at h
    intro other hother
    rcases List.mem_cons.1 hother with rfl | hother
    · exact h.1
    · exact String.lt_trans h.1 (ih h.2 other hother)

theorem ascending_tail {name : String} {names : List String}
    (h : ascending (name :: names) = true) : ascending names = true := by
  cases names with
  | nil => rfl
  | cons next names =>
    simp only [ascending, Bool.and_eq_true] at h
    exact h.2

theorem mem_names_of_mem_write {shape : Shape σ τ} {values : τ} {member : String × Json}
    (h : member ∈ shape.write values) : member.1 ∈ shape.names := by
  induction shape with
  | nil => cases h
  | cons name member' rest ih =>
    obtain ⟨value, values⟩ := values
    unfold write at h
    split at h
    · exact List.mem_cons_of_mem _ (ih h)
    · rcases List.mem_cons.1 h with rfl | h
      · exact List.mem_cons_self
      · exact List.mem_cons_of_mem _ (ih h)

theorem keysAscend_write (shape : Shape σ τ) (h : ascending shape.names = true)
    (values : τ) : KeysAscend (shape.write values) := by
  induction shape with
  | nil => exact .nil
  | cons name member rest ih =>
    obtain ⟨value, values⟩ := values
    unfold write
    split
    · exact ih (ascending_tail h) values
    · exact List.pairwise_cons.2
        ⟨fun other hother => lt_of_ascending h _ (mem_names_of_mem_write hother),
          ih (ascending_tail h) values⟩

/-- The first member of a shape is found under its own name, and all others as without it. -/
theorem lookup_write_cons {name : String} {member : Member α} {rest : Shape σ τ}
    (h : ascending (name :: rest.names) = true) (value : α) (values : τ) (key : String) :
    ((Shape.cons name member rest).write (value, values)).lookup key =
      if key = name then member.write value else (rest.write values).lookup key := by
  have hrest : (rest.write values).lookup name = none := SortedMap.lookup_eq_none fun other ho =>
    lt_of_ascending h _ (mem_names_of_mem_write ho)
  rw [write]
  cases member.write value with
  | none =>
    by_cases hk : key = name
    · rw [if_pos hk, hk, hrest]
    · rw [if_neg hk]
  | some json => exact SortedMap.lookup_cons key name json _

theorem ordered_of_mem_write {shape : Shape σ τ} {values : τ} {member : String × Json}
    (h : member ∈ shape.write values) : member.2.Ordered := by
  induction shape with
  | nil => cases h
  | cons name member' rest ih =>
    obtain ⟨value, values⟩ := values
    unfold write at h
    split at h
    · exact ih h
    next hw =>
      rcases List.mem_cons.1 h with rfl | h
      · exact member'.write_ordered value _ hw
      · exact ih h

/-- A written record is in order. -/
theorem ordered_write (shape : Shape σ τ) (h : ascending shape.names = true) (values : τ) :
    (Json.obj (shape.write values)).Ordered :=
  .obj _ (shape.keysAscend_write h values) fun _ => ordered_of_mem_write

/-- What has been read of a written record. -/
def slotsOf {σ τ : Type} : Shape σ τ → τ → σ
  | .nil, _ => ()
  | .cons _ member rest, (value, values) =>
      ((member.write value).map fun _ => value, rest.slotsOf values)

theorem finish_slotsOf (shape : Shape σ τ) (values : τ) :
    shape.finish (shape.slotsOf values) = .ok values := by
  induction shape with
  | nil => rfl
  | cons name member rest ih =>
    obtain ⟨value, values⟩ := values
    have hm : ((member.write value).map fun _ => value).or member.missing = some value := by
      cases hw : member.write value with
      | none => simpa [hw] using member.missing_write value hw
      | some json => rfl
    simp only [slotsOf, finish, hm, ih]

/-- Members of other names leave a slot alone. -/
theorem putAll_cons_of_ne {once : Bool} {name : String} {member : Member α} {rest : Shape σ τ}
    {members : List (String × Json)} (h : ∀ m ∈ members, name ≠ m.1) (slot : Option α)
    (slots : σ) :
    (Shape.cons name member rest).putAll once (Json.draftMembers members) (slot, slots) =
      (rest.putAll once (Json.draftMembers members) slots).map fun slots => (slot, slots) := by
  induction members generalizing slots with
  | nil => rfl
  | cons m members ih =>
    obtain ⟨other, json⟩ := m
    have hne : name ≠ other := h (other, json) List.mem_cons_self
    have hrest := ih fun m hm => h m (List.mem_cons_of_mem _ hm)
    simp only [Json.draftMembers, putAll, put, if_neg hne]
    cases hp : rest.put once other json.draft slots with
    | error refusal => rfl
    | ok slots => exact hrest slots

theorem putAll_write (once : Bool) (shape : Shape σ τ) (h : ascending shape.names = true)
    (values : τ) :
    shape.putAll once (Json.draftMembers (shape.write values)) shape.vacant =
      .ok (shape.slotsOf values) := by
  induction shape with
  | nil => rfl
  | cons name member rest ih =>
    obtain ⟨value, values⟩ := values
    have hrest := ih (ascending_tail h) values
    have hne : ∀ m ∈ rest.write values, name ≠ m.1 := by
      rintro m hm rfl
      exact String.lt_irrefl _ (lt_of_ascending h _ (mem_names_of_mem_write hm))
    unfold write slotsOf vacant
    cases hw : member.write value with
    | none =>
      simp only
      rw [putAll_cons_of_ne hne, hrest]
      rfl
    | some json =>
      have hm := member.read_write value json hw
      simp only [Json.draftMembers, putAll, put, if_true, Option.isSome_none, Bool.and_false, hm]
      show (Shape.cons name member rest).putAll once (Json.draftMembers (rest.write values))
        (some value, rest.vacant) = _
      rw [putAll_cons_of_ne hne, hrest]
      rfl

/-- Read the members of an object or row of some level. -/
def read (shape : Shape σ τ) (once : Bool) (level : Nat) (closed : Bool)
    (members : List (Option String × Draft)) : Except Refusal τ :=
  match Draft.enclosed level closed (shape.putAll once members shape.vacant) with
  | .error refusal => .error refusal
  | .ok slots => shape.finish slots

theorem read_write (shape : Shape σ τ) (h : ascending shape.names = true) (once : Bool)
    (values : τ) :
    shape.read once 0 true (Json.draftMembers (shape.write values)) = .ok values := by
  simp [read, putAll_write once shape h, finish_slotsOf]

end Shape

namespace Codec

variable {α σ τ : Type}

/-- Records of a shape.  Of two members with one name the later counts. -/
def record (shape : Shape σ τ) (ascending : Shape.ascending shape.names = true)
    (pack : τ → α) (unpack : α → τ) (inverse : ∀ value, pack (unpack value) = value) :
    Codec α where
  encode value := .obj (shape.write (unpack value))
  read
    | .object level members closed => (shape.read false level closed members).map pack
    | draft => .error draft.refusal
  read_encode value := by
    simp [Json.draft, Shape.read_write shape ascending, inverse, Except.map]
  encode_ne_null _ := nofun
  encode_ordered _ := shape.ordered_write ascending _

/-- Records of nothing but a name. -/
def named (pack : String → α) (name : α → String) (inverse : ∀ value, pack (name value) = value) :
    Codec α :=
  record (.cons "name" (.orZero .string "") .nil) (by decide) (fun (text, ()) => pack text)
    (fun value => (name value, ())) inverse

/-- Read the list of the values of a record, in the order of `row`.  Values that it is too short for
are missing; behind the last one nothing else may stand. -/
def readRow (row : List String) (least : Nat) (shape : Shape σ τ) (level : Nat) (items : List Draft)
    (closed : Bool) : Except Refusal τ :=
  let fits := items.length ≤ row.length
  match shape.read true level (closed && fits) ((row.map some).zip items) with
  | .error refusal => .error refusal
  | .ok values => if least ≤ items.length then .ok values else .error .unfit

/-- Records of a shape that name no member twice, and may also be given as the list of their
members' values, in the order of `row`, of which there are at least `least`. -/
def recordOrRow (row : List String) (least : Nat) (shape : Shape σ τ)
    (ascending : Shape.ascending shape.names = true)
    (pack : τ → α) (unpack : α → τ) (inverse : ∀ value, pack (unpack value) = value) :
    Codec α where
  encode value := .obj (shape.write (unpack value))
  read
    | .object level members closed => (shape.read true level closed members).map pack
    | .list level items closed => (readRow row least shape level items closed).map pack
    | draft => .error draft.refusal
  read_encode value := by
    simp [Json.draft, Shape.read_write shape ascending, inverse, Except.map]
  encode_ne_null _ := nofun
  encode_ordered _ := shape.ordered_write ascending _

end Codec

end TracingSidecar
