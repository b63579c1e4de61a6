import TracingSidecar.Agent.Options
import TracingSidecar.Proofs.Bindings
import TracingSidecar.Proofs.Json.Leaves

/-!
# Options given as nested objects

Options may be nested, and what counts of an object is its leaves: each is an option, named by the
keys that lead to it.  However the keys are spread over objects and over dots, leaves with the same
dotted path give the same option, and the last of them counts.  So objects whose leaves have the
same names and values give the same options and arguments (`ofMembers_iff_lastLeaf`).
-/

namespace TracingSidecar

/-- A key gets the value of the last pair that has it. -/
theorem SortedMap.get?_ofList_append_cons {α : Type} (before after : List (String × α))
    (key : String) (value : α) (last : ∀ pair ∈ after, pair.1 ≠ key) :
    (ofList (before ++ (key, value) :: after)).get? key = some value := by
  have kept (m : SortedMap α) : (m.insertMany after).get? key = m.get? key := by
    induction after generalizing m with
    | nil => rfl
    | cons pair rest ih =>
      have different := last pair List.mem_cons_self
      have later := ih (fun other member => last other (List.mem_cons_of_mem _ member))
        (m.insert pair.1 pair.2)
      change ((m.insert pair.1 pair.2).insertMany rest).get? key = m.get? key
      rw [later, get?_insert, if_neg (Ne.symm different)]
  have split : ofList (before ++ (key, value) :: after) =
      ((ofList before).insert key value).insertMany after := by
    unfold ofList insertMany
    rw [List.foldl_append, List.foldl_cons]
  rw [split, kept, get?_insert, if_pos rfl]

/-- Of the items that pass a test there is a last one. -/
theorem exists_last {α : Type} (p : α → Prop) (items : List α) (passed : ∃ item ∈ items, p item) :
    ∃ before last after, items = before ++ last :: after ∧ p last ∧ ∀ other ∈ after, ¬p other := by
  induction items with
  | nil =>
    obtain ⟨item, member, -⟩ := passed
    cases member
  | cons first rest ih =>
    by_cases later : ∃ other ∈ rest, p other
    · obtain ⟨before, last, after, rfl, last_passed, none_after⟩ := ih later
      exact ⟨first :: before, last, after, rfl, last_passed, none_after⟩
    · refine ⟨[], first, rest, rfl, ?_, fun other listed passes => later ⟨other, listed, passes⟩⟩
      obtain ⟨item, member, item_passed⟩ := passed
      rcases List.mem_cons.1 member with same | listed
      · exact same ▸ item_passed
      · exact absurd ⟨item, listed, item_passed⟩ later

namespace Agent.Options

open Json (Before LeafAt places placesOfMembers)

/-! ### Names and values of leaves -/

/-- The name of what a path of keys leads to: the keys joined by dots.  Empty keys in front do not
count. -/
def dottedPath (path : List String) : String := ".".intercalate (path.dropWhile (· = ""))

theorem intercalate_ne_empty (first : String) (rest : List String) (nonempty : first ≠ "") :
    ".".intercalate (first :: rest) ≠ "" := by
  cases rest with
  | nil => simpa using nonempty
  | cons second others => simp [String.intercalate_cons_cons, nonempty]

/-- A path goes on with a dot, unless it has led to no name so far. -/
theorem dottedPath_concat (path : List String) (key : String) :
    dottedPath (path ++ [key]) = dotted (dottedPath path) key := by
  unfold dottedPath dotted
  rw [List.dropWhile_append]
  cases named : path.dropWhile (· = "") with
  | nil => by_cases empty : key = "" <;> simp [empty]
  | cons first rest =>
    have nonempty : first ≠ "" := by
      have not_dropped := List.head_dropWhile_not (· = "") (l := path) (by rw [named]; simp)
      simpa [named] using not_dropped
    have joined : ".".intercalate (first :: rest ++ [key]) =
        ".".intercalate (first :: rest) ++ "." ++ ".".intercalate [key] :=
      String.intercalate_append_of_ne_nil (by simp) (by simp)
    rw [if_neg (intercalate_ne_empty first rest nonempty)]
    simpa using joined

/-- The values that a leaf gives: one for each item of a list, and one for anything else. -/
def leafValues : Json → List String
  | .arr items => items.map valueText
  | leaf => [valueText leaf]

mutual

/-- The leaves below a path are named by what the path goes on with. -/
theorem leaves_dottedPath (path : List String) : (json : Json) →
    leaves (dottedPath path) json =
      (places json).map fun place => (dottedPath (path ++ place.1), leafValues place.2)
  | .null => rfl
  | .obj members => leavesOfMembers_dottedPath path members
  | .arr _ | .bool _ | .int _ | .real _ | .str _ => by simp [leaves, places, leafValues, valueText]

theorem leavesOfMembers_dottedPath (path : List String) : (members : List (String × Json)) →
    leavesOfMembers (dottedPath path) members =
      (placesOfMembers members).map fun place => (dottedPath (path ++ place.1), leafValues place.2)
  | [] => rfl
  | (key, value) :: rest => by
      rw [leavesOfMembers, ← dottedPath_concat, leaves_dottedPath (path ++ [key]) value,
        leavesOfMembers_dottedPath path rest, placesOfMembers, List.map_append, List.map_map]
      simp [Function.comp_def]

end

theorem ofMembers_eq (members : List (String × Json)) :
    ofMembers members = ⟨.ofList ((places (.obj members)).map fun place =>
      (dottedPath place.1, leafValues place.2))⟩ := by
  have leaves_of := leavesOfMembers_dottedPath [] members
  change leavesOfMembers "" members = _ at leaves_of
  rw [ofMembers, leaves_of]
  rfl

/-! ### What counts -/

/-- A leaf of some name that no leaf of the same name comes after. -/
structure LastLeaf (json : Json) (name : String) (path : List String) (leaf : Json) : Prop where
  reached : LeafAt json path leaf
  named : dottedPath path = name
  last : ∀ other content, LeafAt json other content → dottedPath other = name → ¬Before path other

/-- A value gives an option some values: one of its leaves has the name and the values. -/
def Gives (json : Json) (name : String) (values : List String) : Prop :=
  ∃ path leaf, LeafAt json path leaf ∧ dottedPath path = name ∧ leafValues leaf = values

/-- No two leaves have the same name. -/
def LeavesDiffer (json : Json) : Prop :=
  ∀ path leaf other content, LeafAt json path leaf → LeafAt json other content →
    dottedPath path = dottedPath other → path = other

theorem gives_iff (json : Json) (name : String) (values : List String) :
    Gives json name values ↔
      (name, values) ∈ (places json).map fun place => (dottedPath place.1, leafValues place.2) := by
  rw [List.mem_map]
  constructor
  · rintro ⟨path, leaf, reached, rfl, rfl⟩
    exact ⟨(path, leaf), (Json.mem_places_iff json path leaf).2 reached, rfl⟩
  · rintro ⟨⟨path, leaf⟩, met, same⟩
    cases same
    exact ⟨path, leaf, (Json.mem_places_iff json path leaf).1 met, rfl, rfl⟩

theorem leavesDiffer_iff (json : Json) :
    LeavesDiffer json ↔ ∀ place ∈ places json, ∀ other ∈ places json,
      dottedPath place.1 = dottedPath other.1 → place.1 = other.1 := by
  constructor
  · rintro differ ⟨path, leaf⟩ met ⟨other, content⟩ other_met
    exact differ path leaf other content ((Json.mem_places_iff json path leaf).1 met)
      ((Json.mem_places_iff json other content).1 other_met)
  · intro differ path leaf other content reached other_reached
    exact differ (path, leaf) ((Json.mem_places_iff json path leaf).2 reached) (other, content)
      ((Json.mem_places_iff json other content).2 other_reached)

instance (json : Json) : Decidable (LeavesDiffer json) :=
  decidable_of_iff _ (leavesDiffer_iff json).symm

/-- A leaf is the last of its name if there is no other. -/
theorem lastLeaf_of_leavesDiffer (json : Json) (differ : LeavesDiffer json) (path : List String)
    (leaf : Json) (reached : LeafAt json path leaf) :
    LastLeaf json (dottedPath path) path leaf := by
  refine ⟨reached, rfl, ?_⟩
  intro other content other_reached other_named
  rw [differ path leaf other content reached other_reached other_named.symm]
  exact Json.not_before_self other

section

variable (members : List (String × Json)) (ordered : (Json.obj members).Ordered)

include ordered

/-- An option gets the values of the last leaf that has its name. -/
theorem get?_ofMembers_of_lastLeaf (name : String) (path : List String) (leaf : Json)
    (last : LastLeaf (.obj members) name path leaf) :
    (ofMembers members).get? name = some (leafValues leaf) := by
  have met := (Json.mem_places_iff _ path leaf).2 last.reached
  obtain ⟨before, after, whole⟩ := List.append_of_mem met
  have ascending := Json.pairwise_places _ ordered
  rw [whole] at ascending
  have before_later := (List.pairwise_cons.1 (List.pairwise_append.1 ascending).2.1).1
  have none_later : ∀ pair ∈ after.map fun place => (dottedPath place.1, leafValues place.2),
      pair.1 ≠ name := by
    intro pair member same_name
    obtain ⟨⟨other, content⟩, listed, rfl⟩ := List.mem_map.1 member
    have other_met : (other, content) ∈ places (.obj members) := by
      rw [whole]
      exact List.mem_append_right _ (List.mem_cons_of_mem _ listed)
    have not_before := last.last other content ((Json.mem_places_iff _ _ _).1 other_met) same_name
    exact not_before (before_later (other, content) listed)
  rw [ofMembers_eq, whole, List.map_append, List.map_cons, last.named]
  exact SortedMap.get?_ofList_append_cons _ _ name _ none_later

/-- Of the leaves of a name there is a last one. -/
theorem exists_lastLeaf (name : String) (path : List String) (leaf : Json)
    (reached : LeafAt (.obj members) path leaf) (named : dottedPath path = name) :
    ∃ path leaf, LastLeaf (.obj members) name path leaf := by
  have met := (Json.mem_places_iff _ path leaf).2 reached
  obtain ⟨before, ⟨last, content⟩, after, whole, last_named, none_after⟩ :=
    exists_last (fun place => dottedPath place.1 = name) _ ⟨(path, leaf), met, named⟩
  have last_met : (last, content) ∈ places (.obj members) := by
    rw [whole]
    exact List.mem_append_right _ List.mem_cons_self
  refine ⟨last, content, (Json.mem_places_iff _ _ _).1 last_met, last_named, ?_⟩
  intro other other_content other_reached other_named
  have other_met := (Json.mem_places_iff _ other other_content).2 other_reached
  have ascending := Json.pairwise_places _ ordered
  rw [whole] at other_met ascending
  rcases List.mem_append.1 other_met with earlier | here
  · exact Json.not_before_of_before _ _
      ((List.pairwise_append.1 ascending).2.2 _ earlier (last, content) List.mem_cons_self)
  · rcases List.mem_cons.1 here with same | later
    · cases same
      exact Json.not_before_self last
    · exact absurd other_named (none_after (other, other_content) later)

theorem get?_ofMembers_iff (name : String) (values : List String) :
    (ofMembers members).get? name = some values ↔
      ∃ path leaf, LastLeaf (.obj members) name path leaf ∧ leafValues leaf = values := by
  constructor
  · intro found
    have bound : name ∈ (ofMembers members).values.keys :=
      (SortedMap.mem_keys_iff _ name).2 ⟨values, found⟩
    rw [ofMembers_eq, SortedMap.mem_keys_ofList, List.map_map] at bound
    obtain ⟨⟨path, leaf⟩, met, named⟩ := List.mem_map.1 bound
    obtain ⟨last, content, is_last⟩ :=
      exists_lastLeaf members ordered name path leaf ((Json.mem_places_iff _ _ _).1 met) named
    have given := get?_ofMembers_of_lastLeaf members ordered name last content is_last
    rw [found] at given
    exact ⟨last, content, is_last, (Option.some.inj given).symm⟩
  · rintro ⟨path, leaf, is_last, rfl⟩
    exact get?_ofMembers_of_lastLeaf members ordered name path leaf is_last

/-- Where no two leaves have the same name, the options are what the leaves give. -/
theorem get?_ofMembers_of_leavesDiffer (differ : LeavesDiffer (.obj members)) (name : String)
    (values : List String) :
    (ofMembers members).get? name = some values ↔ Gives (.obj members) name values := by
  rw [get?_ofMembers_iff members ordered]
  constructor
  · rintro ⟨path, leaf, is_last, same_values⟩
    exact ⟨path, leaf, is_last.reached, is_last.named, same_values⟩
  · rintro ⟨path, leaf, reached, rfl, same_values⟩
    exact ⟨path, leaf, lastLeaf_of_leavesDiffer _ differ path leaf reached, same_values⟩

/-- The options of an object are its leaves by their dotted paths, and of several leaves with one
dotted path the last.  Objects whose leaves give the same options, each once, are the same options
with the same arguments, however they are nested. -/
theorem ofMembers_iff_lastLeaf :
    (∀ name, (∃ values, (ofMembers members).get? name = some values) ↔
      ∃ path leaf, LeafAt (.obj members) path leaf ∧ dottedPath path = name) ∧
    (∀ name values, (ofMembers members).get? name = some values ↔
      ∃ path leaf, LastLeaf (.obj members) name path leaf ∧ leafValues leaf = values) ∧
    ∀ others : List (String × Json), (Json.obj others).Ordered →
      LeavesDiffer (.obj members) → LeavesDiffer (.obj others) →
      (∀ name values, Gives (.obj others) name values ↔ Gives (.obj members) name values) →
      ofMembers others = ofMembers members ∧
        (ofMembers others).toArgs = (ofMembers members).toArgs := by
  refine ⟨?_, get?_ofMembers_iff members ordered, ?_⟩
  · intro name
    constructor
    · rintro ⟨values, found⟩
      obtain ⟨path, leaf, is_last, -⟩ := (get?_ofMembers_iff members ordered name values).1 found
      exact ⟨path, leaf, is_last.reached, is_last.named⟩
    · rintro ⟨path, leaf, reached, named⟩
      obtain ⟨last, content, is_last⟩ :=
        exists_lastLeaf members ordered name path leaf reached named
      exact ⟨_, get?_ofMembers_of_lastLeaf members ordered name last content is_last⟩
  · intro others others_ordered differ others_differ same_leaves
    have same : ofMembers others = ofMembers members := by
      apply ext_get?
      intro name
      apply Option.ext
      intro values
      have these := get?_ofMembers_of_leavesDiffer members ordered differ name values
      have those := get?_ofMembers_of_leavesDiffer others others_ordered others_differ name values
      exact those.trans ((same_leaves name values).trans these.symm)
    exact ⟨same, congrArg toArgs same⟩

end

/-- The same options with nested objects and with dotted keys; an empty key adds nothing, and null
is no option. -/
theorem ofMembers_iff_lastLeaf_dotted :
    let nested : List (String × Json) :=
      [("level", .int 5),
        ("tags", .obj [("all", .arr [.str "a", .str "b"]), ("on", .bool true)])]
    let dotted : List (String × Json) :=
      [("", .obj [("tags.all", .arr [.str "a", .str "b"])]), ("level", .str "5"),
        ("tags", .obj [("none", .null)]), ("tags.on", .str "true")]
    (Json.obj nested).Ordered ∧ (Json.obj dotted).Ordered ∧
      LeavesDiffer (.obj nested) ∧ LeavesDiffer (.obj dotted) ∧
      (ofMembers nested).get? "tags.all" = some ["a", "b"] ∧
      ofMembers dotted = ofMembers nested ∧
      (ofMembers dotted).toArgs = (ofMembers nested).toArgs := by
  intro nested dotted
  have list_ordered : (Json.arr [.str "a", .str "b"]).Ordered := ordered_valuesJson ["a", "b"]
  have nested_ordered : (Json.obj nested).Ordered := by
    refine .obj _ (by decide) (List.forall_mem_cons.2 ⟨.int 5, List.forall_mem_singleton.2 ?_⟩)
    exact .obj _ (by decide)
      (List.forall_mem_cons.2 ⟨list_ordered, List.forall_mem_singleton.2 (.bool true)⟩)
  have dotted_ordered : (Json.obj dotted).Ordered := by
    have first_ordered : (Json.obj [("tags.all", .arr [.str "a", .str "b"])]).Ordered :=
      .obj _ (by decide) (List.forall_mem_singleton.2 list_ordered)
    have third_ordered : (Json.obj [("none", .null)]).Ordered :=
      .obj _ (by decide) (List.forall_mem_singleton.2 .null)
    refine .obj _ (by decide) (List.forall_mem_cons.2 ⟨first_ordered, ?_⟩)
    refine List.forall_mem_cons.2 ⟨.str "5", ?_⟩
    exact List.forall_mem_cons.2 ⟨third_ordered, List.forall_mem_singleton.2 (.str "true")⟩
  have nested_differ : LeavesDiffer (.obj nested) := by decide +kernel
  have dotted_differ : LeavesDiffer (.obj dotted) := by decide +kernel
  obtain ⟨-, of_last, of_same⟩ := ofMembers_iff_lastLeaf nested nested_ordered
  have reached : LeafAt (.obj nested) ["tags", "all"] (.arr [.str "a", .str "b"]) :=
    (Json.mem_places_iff _ _ _).1 (by decide)
  have last := lastLeaf_of_leavesDiffer _ nested_differ _ _ reached
  have found := (of_last _ ["a", "b"]).2 ⟨_, _, last, rfl⟩
  have same_leaves : ((places (.obj dotted)).map fun place =>
      (dottedPath place.1, leafValues place.2)).Perm
      ((places (.obj nested)).map fun place => (dottedPath place.1, leafValues place.2)) := by
    decide +kernel
  have same := of_same dotted dotted_ordered nested_differ dotted_differ fun name values => by
    rw [gives_iff, gives_iff, same_leaves.mem_iff]
  exact ⟨nested_ordered, dotted_ordered, nested_differ, dotted_differ, found, same⟩

/-- Of two leaves with one dotted path the later one counts; null takes nothing back. -/
example :
    (ofMembers [("", .obj [("log.level", .str "debug")]), ("log", .obj [("level", .str "info")]),
      ("log.level", .null)]).get? "log.level" = some ["info"] := by
  decide +kernel

end Agent.Options

end TracingSidecar
