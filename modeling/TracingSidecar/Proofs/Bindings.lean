import TracingSidecar.Settings.Merge

/-!
# What filling and joining leave

Maps are filled from defaults and overridden from other maps; lists of named items are joined, and
of several items with one name the first is kept.  Each operation is described by the bindings or
names it leaves.  The last statement of each half is the one that repeated passes rest on: doing the
operation a second time changes nothing (`fill_fill`, `joinNamed_eq_self`).
-/

namespace TracingSidecar

namespace SortedMap

variable {α : Type}

/-- An ascending list of entries finds every entry under its own key. -/
theorem lookup_of_mem (entries : List (String × α)) (h : KeysAscend entries) (key : String)
    (value : α) (member : (key, value) ∈ entries) : entries.lookup key = some value := by
  induction entries with
  | nil => simp at member
  | cons head rest ih =>
    obtain ⟨k, v⟩ := head
    have ordered := List.pairwise_cons.1 h
    rcases List.mem_cons.1 member with equal | later
    · cases equal
      rw [lookup_cons, if_pos rfl]
    · have below : k < key := ordered.1 (key, value) later
      have different : key ≠ k := by
        intro equal
        subst equal
        exact String.lt_irrefl _ below
      rw [lookup_cons, if_neg different]
      exact ih ordered.2 later

theorem mem_of_lookup (entries : List (String × α)) (key : String) (value : α)
    (found : entries.lookup key = some value) : (key, value) ∈ entries := by
  induction entries with
  | nil => cases found
  | cons head rest ih =>
    obtain ⟨k, v⟩ := head
    rw [lookup_cons] at found
    split at found
    next equal =>
      cases found
      rw [equal]
      exact List.mem_cons_self
    next => exact List.mem_cons_of_mem _ (ih found)

theorem insertEntry_insertEntry (key : String) (value earlier : α) (entries : List (String × α)) :
    insertEntry key value (insertEntry key earlier entries) = insertEntry key value entries := by
  induction entries with
  | nil => simp [insertEntry]
  | cons head rest ih =>
    obtain ⟨k, v⟩ := head
    by_cases below : key < k
    · simp [insertEntry, below]
    · by_cases equal : key = k
      · simp [insertEntry, equal]
      · simp [insertEntry, below, equal, ih]

/-- Inserting an entry that is there changes nothing. -/
theorem insertEntry_eq_self {entries : List (String × α)} (h : KeysAscend entries) {key : String}
    {value : α} (found : entries.lookup key = some value) :
    insertEntry key value entries = entries := by
  apply eq_of_lookup (keysAscend_insertEntry h) h
  intro other
  rw [lookup_insertEntry]
  split
  next equal => rw [equal, found]
  next => rfl

/-- The entries of a map are its bindings. -/
theorem mem_entries_iff (m : SortedMap α) (key : String) (value : α) :
    (key, value) ∈ m.entries ↔ m.get? key = some value := by
  constructor
  · intro member
    exact lookup_of_mem m.entries m.ascend key value member
  · intro found
    exact mem_of_lookup m.entries key value found

/-- Inserting pairs in ascending order puts them over the bindings that are there. -/
theorem get?_insertMany (m : SortedMap α) (pairs : List (String × α)) (h : KeysAscend pairs)
    (key : String) : (m.insertMany pairs).get? key = (pairs.lookup key).or (m.get? key) := by
  induction pairs generalizing m with
  | nil => rfl
  | cons pair rest ih =>
    obtain ⟨k, v⟩ := pair
    have ordered := List.pairwise_cons.1 h
    have rest_lookup := ih (m.insert k v) ordered.2
    have unfolded : (m.insertMany ((k, v) :: rest)) = (m.insert k v).insertMany rest := rfl
    rw [unfolded, rest_lookup, get?_insert, lookup_cons]
    by_cases equal : key = k
    · subst equal
      rw [if_pos rfl, if_pos rfl, lookup_eq_none ordered.1]
      rfl
    · rw [if_neg equal, if_neg equal]

/-- A binding of a map that pairs were inserted into is one of the pairs or was there before. -/
theorem get?_insertMany_origin (m : SortedMap α) (pairs : List (String × α)) (key : String)
    (value : α) (found : (m.insertMany pairs).get? key = some value) :
    (key, value) ∈ pairs ∨ m.get? key = some value := by
  induction pairs generalizing m with
  | nil => exact Or.inr found
  | cons pair rest ih =>
    obtain ⟨k, v⟩ := pair
    rcases ih (m.insert k v) found with member | earlier
    · exact Or.inl (List.mem_cons_of_mem _ member)
    · rw [get?_insert] at earlier
      split at earlier
      next equal =>
        cases earlier
        rw [equal]
        exact Or.inl List.mem_cons_self
      next => exact Or.inr earlier

theorem mem_keys_iff (m : SortedMap α) (key : String) :
    key ∈ m.keys ↔ ∃ value, m.get? key = some value := by
  constructor
  · intro member
    obtain ⟨⟨k, value⟩, entry, rfl⟩ := List.mem_map.1 member
    exact ⟨value, (mem_entries_iff m k value).1 entry⟩
  · rintro ⟨value, found⟩
    exact List.mem_map.2 ⟨(key, value), (mem_entries_iff m key value).2 found, rfl⟩

theorem mem_keys_insert (m : SortedMap α) (key other : String) (value : α) :
    other ∈ (m.insert key value).keys ↔ other = key ∨ other ∈ m.keys := by
  rw [mem_keys_iff, mem_keys_iff, get?_insert]
  by_cases equal : other = key <;> simp [equal]

/-- The keys of a map made from pairs are those of the pairs. -/
theorem mem_keys_ofList (pairs : List (String × α)) (key : String) :
    key ∈ (ofList pairs).keys ↔ key ∈ pairs.map (·.1) := by
  have inserted (m : SortedMap α) :
      key ∈ (m.insertMany pairs).keys ↔ key ∈ m.keys ∨ key ∈ pairs.map (·.1) := by
    induction pairs generalizing m with
    | nil => simp [insertMany]
    | cons pair rest ih =>
      obtain ⟨k, v⟩ := pair
      have unfolded : m.insertMany ((k, v) :: rest) = (m.insert k v).insertMany rest := rfl
      rw [unfolded, ih, mem_keys_insert, List.map_cons, List.mem_cons, or_comm (a := key = k),
        or_assoc]
  have nothing : key ∉ (empty : SortedMap α).keys := List.not_mem_nil
  rw [ofList, inserted, or_iff_right nothing]

theorem nodup_keys (m : SortedMap α) : m.keys.Nodup := by
  unfold keys
  rw [List.nodup_iff_pairwise_ne, List.pairwise_map]
  refine m.ascend.imp fun ascend same => ?_
  rw [same] at ascend
  exact String.lt_irrefl _ ascend

/-- Filling keeps what is bound and takes the first of the pairs for what is not. -/
theorem get?_fill (m : SortedMap α) (pairs : List (String × α)) (key : String) :
    (m.fill pairs).get? key = (m.get? key).or (pairs.lookup key) := by
  induction pairs generalizing m with
  | nil => simp [fill]
  | cons pair rest ih =>
    obtain ⟨k, v⟩ := pair
    have unfolded : m.fill ((k, v) :: rest) = (m.insertIfNew k v).fill rest := rfl
    rw [unfolded, ih, get?_insertIfNew, lookup_cons]
    by_cases equal : key = k
    · subst equal
      cases m.get? key <;> simp
    · rw [if_neg equal, if_neg equal]

/-- A second filling with the same pairs finds every key in use. -/
theorem fill_fill (m : SortedMap α) (pairs : List (String × α)) :
    (m.fill pairs).fill pairs = m.fill pairs := by
  apply ext_get?
  intro key
  rw [get?_fill, get?_fill]
  cases m.get? key <;> cases pairs.lookup key <;> rfl

/-- Inserting a binding that is there changes nothing. -/
theorem insert_eq_self (m : SortedMap α) (key : String) (value : α)
    (bound : m.get? key = some value) : m.insert key value = m := by
  apply ext_get?
  intro other
  rw [get?_insert]
  split
  next equal => rw [equal, bound]
  next => rfl

/-- Erasing a key that is not bound changes nothing. -/
theorem erase_eq_self (m : SortedMap α) (key : String) (unbound : m.get? key = none) :
    m.erase key = m := by
  apply ext_get?
  intro other
  rw [get?_erase]
  split
  next equal => rw [equal, unbound]
  next => rfl

/-- Overriding a map with bindings that it has changes nothing. -/
theorem insertMany_eq_self (m n : SortedMap α)
    (included : ∀ key value, n.get? key = some value → m.get? key = some value) :
    m.insertMany n.entries = m := by
  apply ext_get?
  intro key
  rw [get?_insertMany m n.entries n.ascend]
  change (n.get? key).or (m.get? key) = m.get? key
  cases found : n.get? key with
  | none => rfl
  | some value => rw [included key value found]; rfl

end SortedMap

/-! ### Items with names -/

section Named

variable {α : Type} (name : α → String)

/-- No two items have the same name. -/
def NamesDiffer (items : List α) : Prop := items.Pairwise fun a b => name a ≠ name b

/-- Every item has a namesake in another list. -/
def NamesCovered (items others : List α) : Prop :=
  ∀ item ∈ items, ∃ other ∈ others, name other = name item

theorem mem_of_mem_distinctBy (items : List α) (item : α) (member : item ∈ distinctBy name items) :
    item ∈ items := by
  induction items with
  | nil => exact member
  | cons first rest ih =>
    rcases List.mem_cons.1 member with equal | later
    · rw [equal]
      exact List.mem_cons_self
    · exact List.mem_cons_of_mem _ (ih (List.mem_filter.1 later).1)

/-- What is kept has pairwise different names. -/
theorem namesDiffer_distinctBy (items : List α) : NamesDiffer name (distinctBy name items) := by
  induction items with
  | nil => exact List.Pairwise.nil
  | cons first rest ih =>
    apply List.pairwise_cons.2
    constructor
    · intro other member
      have kept := (List.mem_filter.1 member).2
      exact fun equal => (bne_iff_ne.1 kept) equal.symm
    · exact List.Pairwise.filter _ ih

/-- No name is lost. -/
theorem namesCovered_distinctBy (items : List α) :
    NamesCovered name items (distinctBy name items) := by
  induction items with
  | nil => intro item member; cases member
  | cons first rest ih =>
    intro item member
    by_cases same : name item = name first
    · exact ⟨first, List.mem_cons_self, same.symm⟩
    · rcases List.mem_cons.1 member with equal | later
      · exact absurd (congrArg name equal) same
      · obtain ⟨other, found, equal⟩ := ih item later
        refine ⟨other, List.mem_cons_of_mem _ (List.mem_filter.2 ⟨found, ?_⟩), equal⟩
        rw [equal]
        exact bne_iff_ne.2 same

/-- Items with different names are all kept. -/
theorem distinctBy_eq_self (items : List α) (differ : NamesDiffer name items) :
    distinctBy name items = items := by
  induction items with
  | nil => rfl
  | cons first rest ih =>
    have parts := List.pairwise_cons.1 differ
    have kept : rest.filter (fun other => name other != name first) = rest := by
      apply List.filter_eq_self.2
      intro other member
      exact bne_iff_ne.2 (Ne.symm (parts.1 other member))
    rw [distinctBy, ih parts.2, kept]

/-- Of joined items those of the first list are kept, and of the second list those whose names the
first does not use. -/
theorem distinctBy_append (items more : List α) :
    distinctBy name (items ++ more) = distinctBy name items ++
      (distinctBy name more).filter fun item => items.all fun other => name item != name other := by
  induction items with
  | nil =>
    have all_kept := List.filter_eq_self (p := fun _ : α => true) (l := distinctBy name more)
    exact (all_kept.2 fun _ _ => rfl).symm
  | cons first rest ih =>
    rw [List.cons_append, distinctBy, ih, distinctBy, List.filter_append, List.filter_filter,
      List.cons_append]
    simp only [List.all_cons]

/-- Joining items whose names are all in use adds nothing. -/
theorem distinctBy_append_covered (items more : List α) (differ : NamesDiffer name items)
    (covered : NamesCovered name more items) : distinctBy name (items ++ more) = items := by
  have nothing_new : (distinctBy name more).filter
      (fun item => items.all fun other => name item != name other) = [] := by
    apply List.filter_eq_nil_iff.2
    intro item member all_differ
    obtain ⟨other, found, equal⟩ := covered item (mem_of_mem_distinctBy name more item member)
    have different := List.all_eq_true.1 all_differ other found
    exact (bne_iff_ne.1 different) equal.symm
  rw [distinctBy_append, nothing_new, List.append_nil, distinctBy_eq_self name items differ]

/-- A list with the items of another joined to it; without items there is nothing to join. -/
def joinNamed (items : List α) (held : Option (List α)) : Option (List α) :=
  if items.isEmpty then held else some (distinctBy name (held.getD [] ++ items))

/-- What a list is once items were joined to it: there are no items, or each has a namesake in it
and its own names differ. -/
def HoldsNamed (items : List α) (held : Option (List α)) : Prop :=
  items = [] ∨ ∃ kept, held = some kept ∧ NamesDiffer name kept ∧ NamesCovered name items kept

theorem holdsNamed_joinNamed (items : List α) (held : Option (List α)) :
    HoldsNamed name items (joinNamed name items held) := by
  unfold joinNamed
  split
  next empty => exact Or.inl (List.isEmpty_iff.1 empty)
  next =>
    refine Or.inr ⟨_, rfl, namesDiffer_distinctBy name _, ?_⟩
    intro item member
    exact namesCovered_distinctBy name _ item (List.mem_append_right _ member)

/-- Joining items to a list that holds them changes nothing. -/
theorem joinNamed_eq_self (items : List α) (held : Option (List α))
    (holds : HoldsNamed name items held) : joinNamed name items held = held := by
  unfold joinNamed
  rcases holds with empty | ⟨kept, rfl, differ, covered⟩
  · rw [empty]
    rfl
  · split
    · rfl
    · rw [Option.getD_some, distinctBy_append_covered name kept items differ covered]

/-- Every item after a joining was there before or is one of those that were joined. -/
theorem mem_of_mem_joinNamed (items : List α) (held : Option (List α)) (item : α)
    (member : item ∈ (joinNamed name items held).getD []) : item ∈ held.getD [] ∨ item ∈ items := by
  unfold joinNamed at member
  split at member
  · exact Or.inl member
  · exact List.mem_append.1 (mem_of_mem_distinctBy name _ item member)

/-- Joining loses no name, neither of the list nor of the items. -/
theorem namesCovered_joinNamed (items : List α) (held : Option (List α)) :
    NamesCovered name (held.getD [] ++ items) ((joinNamed name items held).getD []) := by
  unfold joinNamed
  split
  next empty =>
    rw [List.isEmpty_iff.1 empty, List.append_nil]
    exact fun item member => ⟨item, member, rfl⟩
  next => exact namesCovered_distinctBy name _

theorem namesDiffer_joinNamed (items : List α) (held : Option (List α))
    (differ : NamesDiffer name (held.getD [])) :
    NamesDiffer name ((joinNamed name items held).getD []) := by
  unfold joinNamed
  split
  · exact differ
  · exact namesDiffer_distinctBy name _

/-- The items whose names a list does not use, of several with one name the first. -/
def newNamed (items held : List α) : List α :=
  (distinctBy name items).filter fun item => held.all fun other => name item != name other

theorem mem_newNamed (items held : List α) (item : α) :
    item ∈ newNamed name items held ↔
      item ∈ distinctBy name items ∧ ∀ other ∈ held, name other ≠ name item := by
  simp only [newNamed, List.mem_filter, List.all_eq_true, bne_iff_ne, ne_comm]

theorem namesDiffer_newNamed (items held : List α) : NamesDiffer name (newNamed name items held) :=
  (namesDiffer_distinctBy name items).filter _

/-- A list whose own names differ keeps all it has, and the items with new names follow. -/
theorem getD_joinNamed (items : List α) (held : Option (List α))
    (differ : NamesDiffer name (held.getD [])) :
    (joinNamed name items held).getD [] = held.getD [] ++ newNamed name items (held.getD []) := by
  unfold joinNamed newNamed
  split
  next empty =>
    rw [List.isEmpty_iff.1 empty]
    exact (List.append_nil _).symm
  next => rw [Option.getD_some, distinctBy_append, distinctBy_eq_self name _ differ]

/-- Names that a list or an addition to it uses are not new. -/
theorem newNamed_append (items held more : List α) :
    newNamed name items (held ++ more) = (newNamed name items held).filter fun item =>
      more.all fun other => name item != name other := by
  simp only [newNamed, List.filter_filter, List.all_append, Bool.and_comm]

/-- Where something was added before, joining ends in the same list exactly if what was added is the
beginning of what joining adds. -/
theorem append_newNamed_eq_iff (items held added : List α) :
    added ++ newNamed name items (held ++ added) = newNamed name items held ↔
      added <+: newNamed name items held := by
  constructor
  · intro same
    exact ⟨_, same⟩
  · rintro ⟨rest, whole⟩
    have differ := namesDiffer_newNamed name items held
    rw [← whole] at differ
    have apart := (List.pairwise_append.1 differ).2.2
    have none_again : added.filter
        (fun item => added.all fun other => name item != name other) = [] := by
      apply List.filter_eq_nil_iff.2
      intro item member all_differ
      exact (bne_iff_ne.1 (List.all_eq_true.1 all_differ item member)) rfl
    have rest_kept : rest.filter
        (fun item => added.all fun other => name item != name other) = rest := by
      apply List.filter_eq_self.2
      intro item member
      apply List.all_eq_true.2
      intro other found
      exact bne_iff_ne.2 (apart other found item member).symm
    rw [newNamed_append, ← whole, List.filter_append, none_again, rest_kept, List.nil_append]

end Named

end TracingSidecar
