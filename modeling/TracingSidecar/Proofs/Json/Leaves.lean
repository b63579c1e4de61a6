import TracingSidecar.Json.Basic

/-!
# The leaves of a value

A leaf is what a path of keys leads to through the objects of a value, unless it is null or another
object; a list is one leaf, whatever it holds.  `places` meets the leaves depth-first.  Where all
objects have their members in order it meets them in the order of their paths (`pairwise_places`),
which compares two paths key by key: of two leaves, the one with the greater key where their paths
part is met later.
-/

namespace TracingSidecar.Json

/-! ### Paths of keys -/

/-- A path comes before another: it has the smaller key where they part, or it ends there. -/
def Before (path other : List String) : Prop := List.Lex (fun key other => key < other) path other

theorem not_before_self (path : List String) : ¬Before path path :=
  List.lex_irrefl String.lt_irrefl path

theorem not_before_of_before (path other : List String) (before : Before path other) :
    ¬Before other path :=
  List.lex_asymm String.lt_asymm before

/-! ### Leaves -/

/-- A path of keys leads from a value to one of its leaves. -/
inductive LeafAt : Json → List String → Json → Prop
  | here (leaf : Json) (not_null : leaf ≠ .null) (no_object : ∀ members, leaf ≠ .obj members) :
      LeafAt leaf [] leaf
  | inside (members : List (String × Json)) (key : String) (value : Json) (path : List String)
      (leaf : Json) (listed : (key, value) ∈ members) (below : LeafAt value path leaf) :
      LeafAt (.obj members) (key :: path) leaf

mutual

/-- The leaves of a value with their paths, depth-first. -/
def places : Json → List (List String × Json)
  | .null => []
  | .obj members => placesOfMembers members
  | .arr items => [([], .arr items)]
  | .bool value => [([], .bool value)]
  | .int value => [([], .int value)]
  | .real value => [([], .real value)]
  | .str text => [([], .str text)]

def placesOfMembers : List (String × Json) → List (List String × Json)
  | [] => []
  | (key, value) :: rest =>
      (places value).map (fun place => (key :: place.1, place.2)) ++ placesOfMembers rest

end

theorem places_of_leaf (leaf : Json) (not_null : leaf ≠ .null)
    (no_object : ∀ members, leaf ≠ .obj members) : places leaf = [([], leaf)] := by
  cases leaf with
  | null => exact absurd rfl not_null
  | obj members => exact absurd rfl (no_object members)
  | bool | int | real | str | arr => rfl

theorem mem_placesOfMembers (members : List (String × Json)) (path : List String) (leaf : Json) :
    (path, leaf) ∈ placesOfMembers members ↔
      ∃ key value rest, (key, value) ∈ members ∧ path = key :: rest ∧
        (rest, leaf) ∈ places value := by
  induction members with
  | nil => simp [placesOfMembers]
  | cons member others ih =>
    obtain ⟨k, v⟩ := member
    rw [placesOfMembers, List.mem_append, ih]
    constructor
    · rintro (first | later)
      · obtain ⟨⟨rest, found⟩, within, same⟩ := List.mem_map.1 first
        cases same
        exact ⟨k, v, rest, List.mem_cons_self, rfl, within⟩
      · obtain ⟨key, value, rest, listed, same, within⟩ := later
        exact ⟨key, value, rest, List.mem_cons_of_mem _ listed, same, within⟩
    · rintro ⟨key, value, rest, listed, rfl, within⟩
      rcases List.mem_cons.1 listed with same | later
      · cases same
        exact .inl (List.mem_map.2 ⟨(rest, leaf), within, rfl⟩)
      · exact .inr ⟨key, value, rest, later, rfl, within⟩

/-- The traversal meets all leaves and nothing else. -/
theorem mem_places_iff (json : Json) (path : List String) (leaf : Json) :
    (path, leaf) ∈ places json ↔ LeafAt json path leaf := by
  constructor
  · intro member
    induction path generalizing json with
    | nil =>
      cases json with
      | null => cases member
      | obj members =>
        obtain ⟨key, value, rest, -, same, -⟩ := (mem_placesOfMembers members [] leaf).1 member
        cases same
      | bool | int | real | str | arr =>
        cases List.mem_singleton.1 member
        exact .here _ (by simp) (by simp)
    | cons first rest ih =>
      cases json with
      | null => cases member
      | obj members =>
        obtain ⟨key, value, after, listed, same, within⟩ :=
          (mem_placesOfMembers members (first :: rest) leaf).1 member
        cases same
        exact .inside members first value rest leaf listed (ih value within)
      | bool | int | real | str | arr => cases List.mem_singleton.1 member
  · intro reached
    induction reached with
    | here leaf not_null no_object =>
      rw [places_of_leaf leaf not_null no_object]
      exact List.mem_singleton.2 rfl
    | inside members key value path leaf listed below ih =>
      exact (mem_placesOfMembers members (key :: path) leaf).2
        ⟨key, value, path, listed, rfl, ih⟩

theorem pairwise_placesOfMembers (members : List (String × Json)) (ascend : KeysAscend members)
    (inner : ∀ member ∈ members, (places member.2).Pairwise fun a b => Before a.1 b.1) :
    (placesOfMembers members).Pairwise fun a b => Before a.1 b.1 := by
  induction members with
  | nil => exact .nil
  | cons member others ih =>
    obtain ⟨key, value⟩ := member
    have ordered := List.pairwise_cons.1 ascend
    rw [placesOfMembers, List.pairwise_append, List.pairwise_map]
    refine ⟨?_, ?_, ?_⟩
    · exact (inner (key, value) List.mem_cons_self).imp fun before => .cons before
    · exact ih ordered.2 fun other member => inner other (List.mem_cons_of_mem _ member)
    · rintro first first_member ⟨path, leaf⟩ later_member
      obtain ⟨place, -, rfl⟩ := List.mem_map.1 first_member
      obtain ⟨later, content, rest, listed, rfl, -⟩ :=
        (mem_placesOfMembers others path leaf).1 later_member
      exact .rel (ordered.1 (later, content) listed)

/-- Where all objects are in order, the traversal meets the leaves in the order of their paths. -/
theorem pairwise_places (json : Json) (ordered : json.Ordered) :
    (places json).Pairwise fun a b => Before a.1 b.1 := by
  induction ordered with
  | null => exact .nil
  | bool | int | real | str | arr => exact List.pairwise_singleton _ _
  | obj members ascend inner ih => exact pairwise_placesOfMembers members ascend ih

end TracingSidecar.Json
