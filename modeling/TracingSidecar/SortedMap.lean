/-!
# Maps with text keys

`SortedMap` is a finite map kept as its entries in strictly ascending key order, so two maps with
the same bindings are equal (`ext_get?`) and every traversal is in key order.  Texts are ordered by
code point.  Each operation is described by what it does to `get?`.
-/

namespace TracingSidecar

/-- Strictly ascending keys. -/
def KeysAscend {α : Type} (entries : List (String × α)) : Prop :=
  entries.Pairwise fun a b => a.1 < b.1

instance {α : Type} (entries : List (String × α)) : Decidable (KeysAscend entries) :=
  inferInstanceAs (Decidable (List.Pairwise _ entries))

/-- A finite map from texts, stored in strictly ascending key order. -/
structure SortedMap (α : Type) where
  entries : List (String × α)
  ascend : KeysAscend entries
  deriving DecidableEq

namespace SortedMap

variable {α β : Type}

/-- The map without bindings. -/
def empty : SortedMap α := ⟨[], .nil⟩

instance : EmptyCollection (SortedMap α) := ⟨empty⟩
instance : Inhabited (SortedMap α) := ⟨empty⟩

def keys (m : SortedMap α) : List String := m.entries.map (·.1)

def size (m : SortedMap α) : Nat := m.entries.length

def isEmpty (m : SortedMap α) : Bool := m.entries.isEmpty

/-- The value bound to a key. -/
def get? (m : SortedMap α) (key : String) : Option α := m.entries.lookup key

def contains (m : SortedMap α) (key : String) : Bool := (m.get? key).isSome

/-- Bind a key in an entry list, in front of the first greater key; an entry of the same key is
replaced. -/
def insertEntry (key : String) (value : α) : List (String × α) → List (String × α)
  | [] => [(key, value)]
  | (k, v) :: rest =>
      if key < k then (key, value) :: (k, v) :: rest
      else if key = k then (key, value) :: rest
      else (k, v) :: insertEntry key value rest

theorem mem_insertEntry {key : String} {value : α} {entry : String × α}
    {entries : List (String × α)} (h : entry ∈ insertEntry key value entries) :
    entry = (key, value) ∨ entry ∈ entries := by
  induction entries with
  | nil => simpa [insertEntry] using h
  | cons head rest ih =>
    obtain ⟨k, v⟩ := head
    unfold insertEntry at h
    split at h
    · simpa using h
    · split at h
      · rcases List.mem_cons.1 h with h | h
        · exact .inl h
        · exact .inr (List.mem_cons_of_mem _ h)
      · rcases List.mem_cons.1 h with h | h
        · exact .inr (h ▸ List.mem_cons_self)
        · exact (ih h).imp id (List.mem_cons_of_mem _)

theorem keysAscend_insertEntry {key : String} {value : α} {entries : List (String × α)}
    (h : KeysAscend entries) : KeysAscend (insertEntry key value entries) := by
  induction entries with
  | nil => exact List.pairwise_singleton _ _
  | cons head rest ih =>
    obtain ⟨k, v⟩ := head
    have hhead := (List.pairwise_cons.1 h).1
    have hrest := (List.pairwise_cons.1 h).2
    unfold insertEntry
    split
    next hlt =>
      refine List.pairwise_cons.2 ⟨fun entry hentry => ?_, h⟩
      rcases List.mem_cons.1 hentry with rfl | hentry
      · exact hlt
      · exact String.lt_trans hlt (hhead entry hentry)
    next hnlt =>
      split
      next heq =>
        subst heq
        exact List.pairwise_cons.2 ⟨hhead, hrest⟩
      next hne =>
        refine List.pairwise_cons.2 ⟨fun entry hentry => ?_, ih hrest⟩
        rcases mem_insertEntry hentry with rfl | hentry
        · have hle : k ≤ key := String.not_lt.1 hnlt
          exact Decidable.byContradiction fun hn =>
            hne (String.le_antisymm (String.not_lt.1 hn) hle)
        · exact hhead entry hentry

/-- Bind a key, replacing an earlier value. -/
def insert (m : SortedMap α) (key : String) (value : α) : SortedMap α :=
  ⟨insertEntry key value m.entries, keysAscend_insertEntry m.ascend⟩

/-- Bind a key unless it is bound already. -/
def insertIfNew (m : SortedMap α) (key : String) (value : α) : SortedMap α :=
  if m.contains key then m else m.insert key value

/-- Remove a key. -/
def erase (m : SortedMap α) (key : String) : SortedMap α :=
  ⟨m.entries.filter fun entry => entry.1 != key, m.ascend.filter _⟩

/-- Bind every pair from the left to the right; of two pairs with one key the later wins. -/
def insertMany (m : SortedMap α) (pairs : List (String × α)) : SortedMap α :=
  pairs.foldl (fun m pair => m.insert pair.1 pair.2) m

/-- Bind every pair whose key is not bound yet. -/
def fill (m : SortedMap α) (pairs : List (String × α)) : SortedMap α :=
  pairs.foldl (fun m pair => m.insertIfNew pair.1 pair.2) m

def ofList (pairs : List (String × α)) : SortedMap α := empty.insertMany pairs

theorem lookup_cons (key k : String) (v : α) (rest : List (String × α)) :
    ((k, v) :: rest).lookup key = if key = k then some v else rest.lookup key := by
  by_cases h : key = k
  · subst h
    simp
  · have hb : (key == k) = false := beq_eq_false_iff_ne.2 h
    simp [List.lookup_cons, hb, h]

theorem lookup_eq_none {key : String} {entries : List (String × α)}
    (h : ∀ entry ∈ entries, key < entry.1) : entries.lookup key = none := by
  induction entries with
  | nil => rfl
  | cons head rest ih =>
    obtain ⟨k, v⟩ := head
    have hk : key ≠ k := by
      rintro rfl
      exact String.lt_irrefl _ (h (key, v) List.mem_cons_self)
    rw [lookup_cons, if_neg hk]
    exact ih fun entry hentry => h entry (List.mem_cons_of_mem _ hentry)

theorem lookup_insertEntry (key key' : String) (value : α) (entries : List (String × α)) :
    (insertEntry key value entries).lookup key' =
      if key' = key then some value else entries.lookup key' := by
  induction entries with
  | nil => simp [insertEntry, lookup_cons]
  | cons head rest ih =>
    obtain ⟨k, v⟩ := head
    unfold insertEntry
    split
    · rw [lookup_cons]
    · split
      next heq =>
        subst heq
        rw [lookup_cons, lookup_cons]
        by_cases h : key' = key <;> simp [h]
      next hne =>
        rw [lookup_cons, ih, lookup_cons]
        by_cases h : key' = k
        · subst h
          simp [Ne.symm hne]
        · simp [h]

@[simp] theorem get?_insert (m : SortedMap α) (key key' : String) (value : α) :
    (m.insert key value).get? key' = if key' = key then some value else m.get? key' :=
  lookup_insertEntry key key' value m.entries

@[simp] theorem get?_insertIfNew (m : SortedMap α) (key key' : String) (value : α) :
    (m.insertIfNew key value).get? key' =
      if key' = key then some ((m.get? key).getD value) else m.get? key' := by
  unfold insertIfNew contains
  cases h : m.get? key with
  | none => simp
  | some old => by_cases hk : key' = key <;> simp [hk, h]

theorem lookup_filter_ne (key key' : String) (entries : List (String × α)) :
    (entries.filter fun entry => entry.1 != key).lookup key' =
      if key' = key then none else entries.lookup key' := by
  induction entries with
  | nil => simp
  | cons head rest ih =>
    obtain ⟨k, v⟩ := head
    by_cases hk : k = key
    · subst hk
      rw [List.filter_cons_of_neg (by simp), ih, lookup_cons]
      by_cases h : key' = k <;> simp [h]
    · rw [List.filter_cons_of_pos (by simpa using hk), lookup_cons, lookup_cons, ih]
      by_cases h : key' = k
      · subst h; simp [hk]
      · simp [h]

@[simp] theorem get?_erase (m : SortedMap α) (key key' : String) :
    (m.erase key).get? key' = if key' = key then none else m.get? key' :=
  lookup_filter_ne key key' m.entries

/-- The first key is the least one. -/
theorem le_of_lookup_isSome {key : String} {first : String × α} {rest : List (String × α)}
    (h : KeysAscend (first :: rest)) (found : ((first :: rest).lookup key).isSome = true) :
    first.1 ≤ key := by
  apply String.not_lt.1
  intro hlt
  have habsent : (first :: rest).lookup key = none := by
    apply lookup_eq_none
    intro entry hentry
    rcases List.mem_cons.1 hentry with rfl | hrest
    · exact hlt
    · exact String.lt_trans hlt ((List.pairwise_cons.1 h).1 entry hrest)
  rw [habsent] at found
  cases found

theorem eq_nil_of_lookup {entries : List (String × α)} (h : ∀ key, entries.lookup key = none) :
    entries = [] := by
  cases entries with
  | nil => rfl
  | cons head rest =>
    have hhead := h head.1
    rw [lookup_cons, if_pos rfl] at hhead
    cases hhead

theorem eq_of_lookup {a b : List (String × α)} (ha : KeysAscend a) (hb : KeysAscend b)
    (h : ∀ key, a.lookup key = b.lookup key) : a = b := by
  induction a generalizing b with
  | nil => exact (eq_nil_of_lookup fun key => (h key).symm).symm
  | cons head rest ih =>
    cases b with
    | nil => exact eq_nil_of_lookup h
    | cons head' rest' =>
      obtain ⟨k, v⟩ := head
      obtain ⟨k', v'⟩ := head'
      have ha' := List.pairwise_cons.1 ha
      have hb' := List.pairwise_cons.1 hb
      have hkk : k = k' := by
        apply String.le_antisymm
        · exact le_of_lookup_isSome ha (by rw [h, lookup_cons, if_pos rfl]; rfl)
        · exact le_of_lookup_isSome hb (by rw [← h, lookup_cons, if_pos rfl]; rfl)
      subst hkk
      have hv := h k
      rw [lookup_cons, if_pos rfl, lookup_cons, if_pos rfl] at hv
      cases hv
      have hrest : rest = rest' := by
        refine ih ha'.2 hb'.2 fun key => ?_
        by_cases hkey : key = k
        · subst hkey
          rw [lookup_eq_none ha'.1, lookup_eq_none hb'.1]
        · simpa [lookup_cons, hkey] using h key
      rw [hrest]

/-- Maps with the same bindings are equal. -/
theorem ext_get? {m n : SortedMap α} (h : ∀ key, m.get? key = n.get? key) : m = n := by
  cases m with
  | mk a ha => cases n with
    | mk b hb =>
      have : a = b := eq_of_lookup ha hb h
      subst this
      rfl

/-- Inserting a key behind all others appends it. -/
theorem insertEntry_of_forall_lt {key : String} {value : α} {entries : List (String × α)}
    (h : ∀ entry ∈ entries, entry.1 < key) :
    insertEntry key value entries = entries ++ [(key, value)] := by
  induction entries with
  | nil => rfl
  | cons head rest ih =>
    obtain ⟨k, v⟩ := head
    have hk : k < key := h (k, v) List.mem_cons_self
    have hne : key ≠ k := by
      rintro rfl
      exact String.lt_irrefl _ hk
    simp [insertEntry, String.lt_asymm hk, hne,
      ih fun entry hentry => h entry (List.mem_cons_of_mem _ hentry)]

theorem entries_insertMany {m : SortedMap α} {pairs : List (String × α)}
    (h : KeysAscend (m.entries ++ pairs)) :
    (m.insertMany pairs).entries = m.entries ++ pairs := by
  induction pairs generalizing m with
  | nil => simp [insertMany]
  | cons pair rest ih =>
    obtain ⟨key, value⟩ := pair
    have hm : (m.insert key value).entries = m.entries ++ [(key, value)] :=
      insertEntry_of_forall_lt fun entry hentry =>
        (List.pairwise_append.1 h).2.2 entry hentry (key, value) List.mem_cons_self
    have hk : KeysAscend ((m.insert key value).entries ++ rest) := by
      rw [hm, List.append_assoc]
      exact h
    show ((m.insert key value).insertMany rest).entries = _
    rw [ih hk, hm, List.append_assoc]
    rfl

/-- Bindings in ascending order are the entries of their map. -/
theorem entries_ofList {pairs : List (String × α)} (h : KeysAscend pairs) :
    (ofList pairs).entries = pairs :=
  entries_insertMany h

/-- A map is rebuilt from its entries. -/
@[simp] theorem ofList_entries (m : SortedMap α) : ofList m.entries = m := by
  have h := entries_ofList m.ascend
  cases m
  cases hm : ofList _
  rw [hm] at h
  cases h
  rfl

end SortedMap

end TracingSidecar
