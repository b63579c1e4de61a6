import TracingSidecar.Json.Patch
import TracingSidecar.Proofs.Bindings

/-!
# Patches make up differences

The changes that `diff` lists turn the first of two values into the second, wherever in a document
the value stands (`turns`, `applyTo?_diff`).  They are changes of those members only in which the
two differ.  So they can be made to an object that is unlike the first in members that the two have
in common: these stay as they are, and the others become those of the second (`turns_obj`).
-/

namespace TracingSidecar.Json

/-! ### Items of a list -/

theorem addChild?_end (items : List Json) (value : Json) :
    addChild? value (.arr items) (toString items.length) = some (.arr (items ++ [value])) := by
  have position := Pointer.index?_toString items.length
  have not_dash : toString items.length ≠ "-" := by
    intro equal
    rw [equal] at position
    cases position
  rw [addChild?, if_neg not_dash, position]
  simp

theorem removeChild?_middle (front back : List Json) (old : Json) :
    removeChild? (.arr (front ++ old :: back)) (toString front.length) =
      some (.arr (front ++ back)) := by
  rw [removeChild?, Pointer.index?_toString]
  simp [List.eraseIdx_append_of_length_le]

theorem replaceChild?_middle (front back : List Json) (old value : Json) :
    replaceChild? value (.arr (front ++ old :: back)) (toString front.length) =
      some (.arr (front ++ value :: back)) := by
  rw [replaceChild?, Pointer.index?_toString]
  simp

/-! ### Places in a document -/

/-- A place in a document, with a pointer that leads to it: `put x` is the document with `x` there.
Changes at and below the pointer are changes of what stands there. -/
structure Place (path : Pointer) (put : Json → Json) : Prop where
  below : ∀ (change : Json → String → Option Json) (token : String) (rest : Pointer) (x : Json),
    changeParent? change (path ++ token :: rest) (put x) =
      (changeParent? change (token :: rest) x).map put
  whole : ∀ value x : Json, (Change.replace path value).applyTo? (put x) = some (put value)

/-- The document as a whole. -/
theorem Place.root : Place [] id where
  below change token rest x := by simp
  whole _ _ := rfl

theorem Change.applyTo?_add (path : Pointer) (token : String) (value json : Json) :
    (Change.add (path ++ [token]) value).applyTo? json =
      changeParent? (addChild? value) (path ++ [token]) json := by
  cases path <;> rfl

theorem Change.applyTo?_remove (path : Pointer) (token : String) (json : Json) :
    (Change.remove (path ++ [token])).applyTo? json =
      changeParent? removeChild? (path ++ [token]) json := by
  cases path <;> rfl

theorem Change.applyTo?_replace (path : Pointer) (token : String) (value json : Json) :
    (Change.replace (path ++ [token]) value).applyTo? json =
      changeParent? (replaceChild? value) (path ++ [token]) json := by
  cases path <;> rfl

namespace Place

variable {path : Pointer} {put : Json → Json}

/-- A change of the value at a place by one of its own members or items. -/
theorem child (place : Place path put) (change : Json → String → Option Json) (token : String)
    (x : Json) : changeParent? change (path ++ [token]) (put x) = (change x token).map put := by
  rw [place.below]
  cases x <;> rfl

/-- The place of a member in an object at a place. -/
theorem member (place : Place path put) (key : String) (others : List (String × Json)) :
    Place (path ++ [key]) fun x => put (.obj (SortedMap.insertEntry key x others)) where
  below change token rest x := by
    have found : (SortedMap.insertEntry key x others).lookup key = some x := by
      rw [SortedMap.lookup_insertEntry, if_pos rfl]
    rw [List.append_assoc, List.singleton_append, place.below, changeParent?, found]
    cases changed : changeParent? change (token :: rest) x <;>
      simp [changed, SortedMap.insertEntry_insertEntry]
  whole value x := by
    have found : (SortedMap.insertEntry key x others).lookup key = some x := by
      rw [SortedMap.lookup_insertEntry, if_pos rfl]
    rw [Change.applyTo?_replace, place.child]
    simp [replaceChild?, found, SortedMap.insertEntry_insertEntry]

/-- The place of an item in a list at a place. -/
theorem item (place : Place path put) (front back : List Json) :
    Place (path ++ [toString front.length]) fun x => put (.arr (front ++ x :: back)) where
  below change token rest x := by
    rw [List.append_assoc, List.singleton_append, place.below, changeParent?,
      Pointer.index?_toString]
    cases changed : changeParent? change (token :: rest) x <;> simp [changed]
  whole value x := by
    rw [Change.applyTo?_replace, place.child, replaceChild?_middle]
    rfl

end Place

/-! ### Differences -/

theorem Patch.applyTo?_append (patch more : Patch) (json : Json) :
    Patch.applyTo? (patch ++ more) json = (patch.applyTo? json).bind more.applyTo? :=
  List.foldlM_append

theorem Patch.applyTo?_cons (change : Change) (rest : Patch) (json : Json) :
    Patch.applyTo? (change :: rest) json = (change.applyTo? json).bind rest.applyTo? := rfl

theorem Patch.applyTo?_singleton (change : Change) (json : Json) :
    Patch.applyTo? [change] json = change.applyTo? json := by
  rw [applyTo?_cons]
  cases change.applyTo? json <;> rfl

/-- The changes for one member that an object is to have. -/
def diffMember (path : Pointer) (key : String) (new : Json) : Option Json → Patch
  | some old => diffAt (path ++ [key]) old new
  | none => [.add (path ++ [key]) new]

theorem diffMembers_cons (path : Pointer) (before rest : List (String × Json)) (key : String)
    (new : Json) : diffMembers path before ((key, new) :: rest) =
      diffMember path key new (before.lookup key) ++ diffMembers path before rest := by
  rw [diffMembers]
  cases before.lookup key <;> rfl

/-- The changes that turn one value into another make one value of a third, wherever it stands. -/
def Turns (before after held result : Json) : Prop :=
  ∀ path put, Place path put → (diffAt path before after).applyTo? (put held) = some (put result)

/-- What becomes of a member that an object has or has not, when it is to follow the change of
another object's member of the same name. -/
inductive Follows : (before after held result : Option Json) → Prop
  | absent (held : Option Json) : Follows none none held held
  | added (new : Json) (held : Option Json) : Follows none (some new) held (some new)
  | removed (old held : Json) : Follows (some old) none (some held) none
  | unchanged (old new : Json) (held : Option Json) (same : ∀ path, diffAt path old new = []) :
      Follows (some old) (some new) held held
  | turned (old new held result : Json) (turns : Turns old new held result) :
      Follows (some old) (some new) (some held) (some result)

section Members

variable {path : Pointer} {put : Json → Json}

/-- The changes for one member change this member and no other. -/
theorem applyTo?_diffMember (place : Place path put) (before : Option Json) (key : String)
    (new : Json) (held : List (String × Json)) (ascend : KeysAscend held) (result : Option Json)
    (follows : Follows before (some new) (held.lookup key) result) :
    ∃ next, (diffMember path key new before).applyTo? (put (.obj held)) =
        some (put (.obj next)) ∧
      KeysAscend next ∧
      ∀ other, next.lookup other = if other = key then result else held.lookup other := by
  generalize found : held.lookup key = here at follows
  cases follows with
  | added =>
    refine ⟨SortedMap.insertEntry key new held, ?_, SortedMap.keysAscend_insertEntry ascend,
      fun other => SortedMap.lookup_insertEntry key other new held⟩
    rw [diffMember, Patch.applyTo?_singleton, Change.applyTo?_add, place.child]
    rfl
  | unchanged old _ _ same =>
    refine ⟨held, ?_, ascend, ?_⟩
    · rw [diffMember, same]
      rfl
    · intro other
      split
      next equal => rw [equal, found]
      next => rfl
  | turned old _ here result turns =>
    refine ⟨SortedMap.insertEntry key result held, ?_, SortedMap.keysAscend_insertEntry ascend,
      fun other => SortedMap.lookup_insertEntry key other result held⟩
    have made := turns _ _ (place.member key held)
    rw [SortedMap.insertEntry_eq_self ascend found] at made
    exact made

/-- The changes for the members that an object is to have, made one member after the other. -/
theorem applyTo?_diffMembers (place : Place path put) (before after held : List (String × Json))
    (after_ascend : KeysAscend after) (ascend : KeysAscend held) (result : String → Option Json)
    (follows : ∀ key new, after.lookup key = some new →
      Follows (before.lookup key) (some new) (held.lookup key) (result key)) :
    ∃ next, (diffMembers path before after).applyTo? (put (.obj held)) = some (put (.obj next)) ∧
      KeysAscend next ∧ ∀ key, next.lookup key =
        if (after.lookup key).isSome then result key else held.lookup key := by
  induction after generalizing held with
  | nil => exact ⟨held, rfl, ascend, fun _ => rfl⟩
  | cons first rest ih =>
    obtain ⟨key, new⟩ := first
    have ordered := List.pairwise_cons.1 after_ascend
    have later : rest.lookup key = none := SortedMap.lookup_eq_none ordered.1
    have first_follows := follows key new (by rw [SortedMap.lookup_cons, if_pos rfl])
    obtain ⟨next, made, next_ascend, next_lookup⟩ :=
      applyTo?_diffMember place _ key new held ascend _ first_follows
    have rest_follows : ∀ other value, rest.lookup other = some value →
        Follows (before.lookup other) (some value) (next.lookup other) (result other) := by
      intro other value found
      have different : other ≠ key := by
        rintro rfl
        rw [later] at found
        cases found
      rw [next_lookup, if_neg different]
      exact follows other value (by rw [SortedMap.lookup_cons, if_neg different, found])
    obtain ⟨last, made_rest, last_ascend, last_lookup⟩ :=
      ih next ordered.2 next_ascend rest_follows
    refine ⟨last, ?_, last_ascend, ?_⟩
    · rw [diffMembers_cons, Patch.applyTo?_append, made]
      exact made_rest
    · intro other
      rw [last_lookup, next_lookup, SortedMap.lookup_cons]
      by_cases equal : other = key
      · simp [equal, later]
      · simp only [if_neg equal]

/-- A member is removed if it has no counterpart, and no other is touched. -/
theorem applyTo?_removal (place : Place path put) (key : String) (old : Json)
    (after held : List (String × Json)) (ascend : KeysAscend held)
    (present : after.lookup key = none → (held.lookup key).isSome) :
    ∃ next, (removals path [(key, old)] after).applyTo? (put (.obj held)) =
        some (put (.obj next)) ∧
      KeysAscend next ∧ ∀ other, next.lookup other =
        if other = key ∧ after.lookup key = none then none else held.lookup other := by
  by_cases gone : after.lookup key = none
  · have changes : removals path [(key, old)] after = [.remove (path ++ [key])] := by
      simp [removals, gone]
    refine ⟨held.filter fun entry => entry.1 != key, ?_, ascend.filter _, ?_⟩
    · rw [changes, Patch.applyTo?_singleton, Change.applyTo?_remove, place.child, removeChild?,
        if_pos (present gone)]
      rfl
    · intro other
      simp only [SortedMap.lookup_filter_ne, gone, and_true]
  · have changes : removals path [(key, old)] after = [] := by
      simp [removals, gone]
    refine ⟨held, ?_, ascend, ?_⟩
    · rw [changes]
      rfl
    · intro other
      rw [if_neg fun both => gone both.2]

theorem removals_cons (path : Pointer) (first : String × Json)
    (rest after : List (String × Json)) :
    removals path (first :: rest) after =
      removals path [first] after ++ removals path rest after := by
  rw [← List.singleton_append, removals, List.filter_append, List.map_append]
  rfl

/-- The members without a counterpart are removed, one after the other. -/
theorem applyTo?_removals (place : Place path put) (before after held : List (String × Json))
    (before_ascend : KeysAscend before) (ascend : KeysAscend held)
    (present : ∀ key, (before.lookup key).isSome → after.lookup key = none →
      (held.lookup key).isSome) :
    ∃ next, (removals path before after).applyTo? (put (.obj held)) = some (put (.obj next)) ∧
      KeysAscend next ∧ ∀ key, next.lookup key =
        if (before.lookup key).isSome ∧ after.lookup key = none then none
        else held.lookup key := by
  induction before generalizing held with
  | nil => exact ⟨held, rfl, ascend, fun _ => by simp⟩
  | cons first rest ih =>
    obtain ⟨key, old⟩ := first
    have ordered := List.pairwise_cons.1 before_ascend
    have later : rest.lookup key = none := SortedMap.lookup_eq_none ordered.1
    obtain ⟨next, made, next_ascend, next_lookup⟩ :=
      applyTo?_removal place key old after held ascend
        (present key (by rw [SortedMap.lookup_cons, if_pos rfl]; rfl))
    have rest_present : ∀ other, (rest.lookup other).isSome → after.lookup other = none →
        (next.lookup other).isSome := by
      intro other found gone
      have different : other ≠ key := by
        rintro rfl
        rw [later] at found
        cases found
      rw [next_lookup, if_neg fun both => different both.1]
      exact present other (by rwa [SortedMap.lookup_cons, if_neg different]) gone
    obtain ⟨last, made_rest, last_ascend, last_lookup⟩ :=
      ih next ordered.2 next_ascend rest_present
    refine ⟨last, ?_, last_ascend, ?_⟩
    · rw [removals_cons, Patch.applyTo?_append, made]
      exact made_rest
    · intro other
      rw [last_lookup, next_lookup, SortedMap.lookup_cons]
      by_cases equal : other = key
      · rw [equal, later, if_pos rfl]
        by_cases gone : after.lookup key = none
        · simp [gone]
        · simp [gone]
      · simp only [equal, false_and, if_false]

end Members

/-- An object follows the change of another one if each of its members does. -/
theorem turns_obj (before after held result : List (String × Json))
    (before_ascend : KeysAscend before) (after_ascend : KeysAscend after)
    (ascend : KeysAscend held) (result_ascend : KeysAscend result)
    (follows : ∀ key, Follows (before.lookup key) (after.lookup key) (held.lookup key)
      (result.lookup key)) :
    Turns (.obj before) (.obj after) (.obj held) (.obj result) := by
  intro path put place
  obtain ⟨middle, made, middle_ascend, middle_lookup⟩ := applyTo?_diffMembers place before after
    held after_ascend ascend (result.lookup ·) fun key new found => found ▸ follows key
  have still_present : ∀ key, (before.lookup key).isSome → after.lookup key = none →
      (middle.lookup key).isSome := by
    intro key found gone
    have member_follows := follows key
    rw [gone] at member_follows
    rw [middle_lookup, gone]
    generalize before.lookup key = b at member_follows found
    generalize held.lookup key = h at member_follows ⊢
    generalize result.lookup key = r at member_follows
    cases member_follows with
    | absent => cases found
    | removed => rfl
  obtain ⟨last, removed, last_ascend, last_lookup⟩ :=
    applyTo?_removals place before after middle before_ascend middle_ascend still_present
  have same : last = result := by
    refine SortedMap.eq_of_lookup last_ascend result_ascend fun key => ?_
    rw [last_lookup, middle_lookup]
    have member_follows := follows key
    generalize before.lookup key = b at member_follows ⊢
    generalize after.lookup key = a at member_follows ⊢
    generalize held.lookup key = h at member_follows ⊢
    generalize result.lookup key = r at member_follows ⊢
    cases member_follows <;> simp
  rw [diffAt, Patch.applyTo?_append, made, Option.bind_some, removed, same]

/-- The items behind those that are done already. -/
theorem applyTo?_diffItems {path : Pointer} {put : Json → Json} (place : Place path put)
    (front before after : List Json)
    (turns : ∀ new ∈ after, ∀ old ∈ before, Turns old new old new) :
    (diffItems path front.length before after).applyTo? (put (.arr (front ++ before))) =
      some (put (.arr (front ++ after))) := by
  induction after generalizing front before with
  | nil =>
    induction before with
    | nil => rfl
    | cons old more ih =>
      have made : (Change.remove (path ++ [toString front.length])).applyTo?
          (put (.arr (front ++ old :: more))) = some (put (.arr (front ++ more))) := by
        rw [Change.applyTo?_remove, place.child, removeChild?_middle]
        rfl
      have rest := ih (by simp)
      rw [diffItems] at rest ⊢
      rw [List.map_cons, Patch.applyTo?_cons, made]
      exact rest
  | cons new rest ih =>
    cases before with
    | nil =>
      have made : (Change.add (path ++ [toString front.length]) new).applyTo?
          (put (.arr (front ++ []))) = some (put (.arr (front ++ [new]))) := by
        rw [List.append_nil, Change.applyTo?_add, place.child, addChild?_end]
        rfl
      have others := ih (front ++ [new]) [] (by simp)
      rw [List.length_append, List.append_assoc] at others
      rw [diffItems, Patch.applyTo?_cons, made]
      simpa using others
    | cons old more =>
      have first := turns new List.mem_cons_self old List.mem_cons_self _ _ (place.item front more)
      have others := ih (front ++ [new]) more fun value listed other found =>
        turns value (List.mem_cons_of_mem _ listed) other (List.mem_cons_of_mem _ found)
      rw [diffItems, Patch.applyTo?_append, first]
      simpa using others

theorem turns_arr (before after : List Json)
    (turns : ∀ new ∈ after, ∀ old ∈ before, Turns old new old new) :
    Turns (.arr before) (.arr after) (.arr before) (.arr after) := by
  intro path put place
  rw [diffAt]
  exact applyTo?_diffItems place [] before after turns

/-- What is not compared part by part is left if it is the same, and else replaced. -/
theorem turns_of_diffAt (before after : Json)
    (changes : ∀ path, (before = after ∧ diffAt path before after = []) ∨
      diffAt path before after = [.replace path after]) : Turns before after before after := by
  intro path put place
  rcases changes path with ⟨same, none_needed⟩ | replaced
  · rw [none_needed, same]
    rfl
  · rw [replaced, Patch.applyTo?_singleton, place.whole]

/-- The changes of a difference turn the first value into the second. -/
theorem turns (before after : Json) (before_ordered : before.Ordered)
    (after_ordered : after.Ordered) : Turns before after before after := by
  induction after_ordered generalizing before with
  | null | bool | int | real | str =>
    apply turns_of_diffAt
    intro path
    rw [diffAt]
    split
    next same => exact Or.inl ⟨same, rfl⟩
    next => exact Or.inr rfl
  | arr items inner ih =>
    cases before_ordered with
    | arr old_items old_inner =>
      exact turns_arr old_items items fun new listed old found =>
        ih new listed old (old_inner old found)
    | null | bool | int | real | str | obj => exact turns_of_diffAt _ _ fun _ => Or.inr rfl
  | obj members ascend inner ih =>
    cases before_ordered with
    | obj old_members old_ascend old_inner =>
      refine turns_obj old_members members old_members members old_ascend ascend old_ascend ascend
        fun key => ?_
      cases found : old_members.lookup key with
      | none =>
        cases new_found : members.lookup key with
        | none => exact .absent none
        | some new => exact .added new none
      | some old =>
        cases new_found : members.lookup key with
        | none => exact .removed old old
        | some new =>
          have old_member := SortedMap.mem_of_lookup old_members key old found
          have new_member := SortedMap.mem_of_lookup members key new new_found
          exact .turned old new old new (ih _ new_member old (old_inner _ old_member))
    | null | bool | int | real | str | arr => exact turns_of_diffAt _ _ fun _ => Or.inr rfl

/-- Applying the difference of two values to the first gives the second. -/
theorem applyTo?_diff (before after : Json) (before_ordered : before.Ordered)
    (after_ordered : after.Ordered) : (diff before after).applyTo? before = some after :=
  turns before after before_ordered after_ordered [] id Place.root

end TracingSidecar.Json
