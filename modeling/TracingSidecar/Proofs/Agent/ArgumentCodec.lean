import Mathlib.Data.List.Basic
import TracingSidecar.Agent.Options
import TracingSidecar.Proofs.Agent.TagCodec

/-!
# Reading options back from their arguments

Options are rendered as sorted arguments, one for each value, and may be read back from them.  An
argument is cut at its first `=`, so a key that contains one is cut short; but the same argument is
rendered from the parts, so no argument is ever lost (`toArgs_ofArgs_toArgs`).  The options
themselves come back exactly if no key contains `=` and every option has values in ascending order
(`ofArgs_toArgs_iff`): an option without values leaves no argument, and sorting the arguments sorts
the values of each option.
-/

namespace TracingSidecar

namespace Agent.Options

/-! ### One argument -/

/-- An argument is read as it was written if its key has no `=`. -/
theorem ofArgument?_argument (key value : String) (no_equals : '=' ∉ key.toList) :
    ofArgument? (argument key value) = some (key, value) := by
  have flag : argument key value = "--" ++ (key ++ "=" ++ value) := by
    simp [argument, String.append_assoc]
  have cut := Text.splitFirst?_append '=' key value no_equals
  have equals : String.singleton '=' = "=" := rfl
  rw [equals] at cut
  rw [ofArgument?, flag, Text.stripPrefix?_append, Option.map_some, cut, Option.getD_some]

/-- Every argument can be written with a key that has no `=`. -/
theorem exists_argument_eq (key value : String) :
    ∃ before after, argument key value = argument before after ∧ '=' ∉ before.toList := by
  have member : '=' ∈ (key ++ "=" ++ value).toList := by simp
  obtain ⟨before, after, whole, absent⟩ := List.eq_append_cons_of_mem member
  refine ⟨String.ofList before, String.ofList after, ?_, by simpa using absent⟩
  apply String.toList_injective
  have flag : (argument key value).toList = "--".toList ++ (key ++ "=" ++ value).toList := by
    simp [argument]
  rw [flag, whole]
  simp [argument]

/-- What is read from an argument renders the same argument, and its key has no `=`. -/
theorem exists_ofArgument?_argument (key value : String) :
    ∃ before after, ofArgument? (argument key value) = some (before, after) ∧
      argument before after = argument key value ∧ '=' ∉ before.toList := by
  obtain ⟨before, after, same, absent⟩ := exists_argument_eq key value
  refine ⟨before, after, ?_, same.symm, absent⟩
  rw [same]
  exact ofArgument?_argument before after absent

/-- The arguments of one option are ordered like its values. -/
theorem argument_le_argument_iff (key first second : String) :
    argument key first ≤ argument key second ↔ first ≤ second :=
  Text.append_le_append_iff ("--" ++ key ++ "=") first second

/-! ### The values of one option -/

/-- The values that some pairs of keys and values give to one key, in their order. -/
def valuesOf (key : String) (pairs : List (String × String)) : List String :=
  (pairs.filter fun pair => pair.1 = key).map (·.2)

theorem valuesOf_append (key : String) (pairs more : List (String × String)) :
    valuesOf key (pairs ++ more) = valuesOf key pairs ++ valuesOf key more := by
  simp [valuesOf]

theorem valuesOf_cons (key k v : String) (rest : List (String × String)) :
    valuesOf key ((k, v) :: rest) =
      if k = key then v :: valuesOf key rest else valuesOf key rest := by
  by_cases same : k = key <;> simp [valuesOf, same]

theorem count_valuesOf (key value : String) (pairs : List (String × String)) :
    (valuesOf key pairs).count value = pairs.count (key, value) := by
  induction pairs with
  | nil => rfl
  | cons pair rest ih =>
    obtain ⟨k, v⟩ := pair
    rw [valuesOf_cons, List.count_cons]
    by_cases same : k = key
    · simp [same, List.count_cons, ih]
    · simp [same, ih]

/-- Pairs that give the same values to every key are the same up to their order. -/
theorem perm_of_valuesOf (pairs others : List (String × String))
    (same : ∀ key, valuesOf key pairs = valuesOf key others) : pairs.Perm others := by
  apply List.perm_iff_count.2
  rintro ⟨key, value⟩
  rw [← count_valuesOf, same key, count_valuesOf]

/-- One pair for each value of the options. -/
def pairs (o : Options) : List (String × String) :=
  o.values.entries.flatMap fun entry => entry.2.map fun value => (entry.1, value)

theorem valuesOf_flatMap (entries : List (String × List String)) (ascend : KeysAscend entries)
    (key : String) :
    valuesOf key (entries.flatMap fun entry => entry.2.map fun value => (entry.1, value)) =
      (entries.lookup key).getD [] := by
  induction entries with
  | nil => rfl
  | cons entry rest ih =>
    obtain ⟨k, values⟩ := entry
    have ordered := List.pairwise_cons.1 ascend
    rw [List.flatMap_cons, valuesOf_append, ih ordered.2, SortedMap.lookup_cons]
    by_cases same : key = k
    · subst same
      have nothing_else : rest.lookup key = none := SortedMap.lookup_eq_none ordered.1
      simp [valuesOf, List.filter_map, Function.comp_def, nothing_else]
    · simp [valuesOf, List.filter_map, Function.comp_def, same, Ne.symm same]

theorem valuesOf_pairs (o : Options) (key : String) :
    valuesOf key o.pairs = (o.get? key).getD [] :=
  valuesOf_flatMap o.values.entries o.values.ascend key

theorem toArgs_eq (o : Options) :
    o.toArgs = (o.pairs.map fun pair => argument pair.1 pair.2).mergeSort := by
  simp [toArgs, pairs, List.map_flatMap, Function.comp_def]

/-! ### Reading arguments -/

/-- The pairs that are read from arguments. -/
def pairsRead (args : List String) : List (String × String) := args.filterMap ofArgument?

theorem get?_push (o : Options) (k v key : String) :
    (o.push k v).get? key =
      if key = k then some ((o.get? k).getD [] ++ [v]) else o.get? key :=
  SortedMap.get?_insert o.values k key _

/-- Adding values one by one appends them to those that an option has. -/
theorem getD_get?_foldl_push (o : Options) (added : List (String × String)) (key : String) :
    ((added.foldl (fun o (key, value) => o.push key value) o).get? key).getD [] =
      (o.get? key).getD [] ++ valuesOf key added := by
  induction added generalizing o with
  | nil => simp [valuesOf]
  | cons pair rest ih =>
    obtain ⟨k, v⟩ := pair
    rw [List.foldl_cons, ih, get?_push, valuesOf_cons]
    by_cases same : key = k
    · subst same
      simp
    · simp [same, Ne.symm same]

/-- An option that got its values one by one is not empty. -/
theorem get?_foldl_push_ne (o : Options) (added : List (String × String)) (key : String)
    (nonempty : o.get? key ≠ some []) :
    (added.foldl (fun o (key, value) => o.push key value) o).get? key ≠ some [] := by
  induction added generalizing o with
  | nil => exact nonempty
  | cons pair rest ih =>
    obtain ⟨k, v⟩ := pair
    apply ih
    rw [get?_push]
    split
    · simp
    · exact nonempty

theorem getD_get?_ofArgs (args : List String) (key : String) :
    ((ofArgs args).get? key).getD [] = valuesOf key (pairsRead args) :=
  getD_get?_foldl_push empty (pairsRead args) key

/-- An option read from arguments has the values that they give to it, in their order. -/
theorem get?_ofArgs (args : List String) (key : String) (values : List String) :
    (ofArgs args).get? key = some values ↔
      values ≠ [] ∧ valuesOf key (pairsRead args) = values := by
  have nonempty : (ofArgs args).get? key ≠ some [] :=
    get?_foldl_push_ne empty (pairsRead args) key nofun
  rw [← getD_get?_ofArgs]
  cases found : (ofArgs args).get? key with
  | none => simp [eq_comm]
  | some held =>
    rw [found] at nonempty
    constructor
    · rintro ⟨⟩
      exact ⟨fun empty_values => nonempty (congrArg some empty_values), rfl⟩
    · rintro ⟨-, same⟩
      exact congrArg some same

/-- The pairs read from arguments that were rendered render the same arguments in the same order. -/
theorem map_argument_pairsRead (args : List String)
    (rendered : ∀ arg ∈ args, ∃ key value, arg = argument key value) :
    (pairsRead args).map (fun pair => argument pair.1 pair.2) = args := by
  induction args with
  | nil => rfl
  | cons arg rest ih =>
    obtain ⟨key, value, rfl⟩ := rendered arg List.mem_cons_self
    obtain ⟨before, after, read, same, -⟩ := exists_ofArgument?_argument key value
    have later := ih fun other member => rendered other (List.mem_cons_of_mem _ member)
    rw [pairsRead, List.filterMap_cons_some read, List.map_cons, same]
    exact congrArg _ later

/-! ### There and back -/

section

variable (o : Options)

theorem exists_of_mem_toArgs (arg : String) (member : arg ∈ o.toArgs) :
    ∃ key value, arg = argument key value := by
  rw [toArgs_eq, List.mem_mergeSort] at member
  obtain ⟨pair, -, rendered⟩ := List.mem_map.1 member
  exact ⟨pair.1, pair.2, rendered.symm⟩

theorem map_argument_pairsRead_toArgs :
    (pairsRead o.toArgs).map (fun pair => argument pair.1 pair.2) = o.toArgs :=
  map_argument_pairsRead o.toArgs fun arg member => exists_of_mem_toArgs o arg member

theorem no_equals_of_mem_pairsRead (key value : String)
    (member : (key, value) ∈ pairsRead o.toArgs) : '=' ∉ key.toList := by
  obtain ⟨arg, listed, read⟩ := List.mem_filterMap.1 member
  obtain ⟨k, v, rfl⟩ := exists_of_mem_toArgs o arg listed
  obtain ⟨before, after, parts, -, absent⟩ := exists_ofArgument?_argument k v
  rw [parts] at read
  cases read
  exact absent

/-- Rendered arguments give the values of each option in ascending order. -/
theorem pairwise_valuesOf_pairsRead (key : String) :
    (valuesOf key (pairsRead o.toArgs)).Pairwise (· ≤ ·) := by
  have ascending : o.toArgs.Pairwise (· ≤ ·) := Text.pairwise_mergeSort _
  rw [← map_argument_pairsRead_toArgs o, List.pairwise_map] at ascending
  apply List.pairwise_map.2
  refine List.Pairwise.imp_of_mem ?_ (ascending.filter _)
  intro first second first_member second_member below
  have first_key : first.1 = key := by simpa using (List.mem_filter.1 first_member).2
  have second_key : second.1 = key := by simpa using (List.mem_filter.1 second_member).2
  rw [first_key, second_key] at below
  exact (argument_le_argument_iff key _ _).1 below

/-- Reading rendered arguments and rendering again gives the same arguments. -/
theorem toArgs_ofArgs_toArgs : (ofArgs o.toArgs).toArgs = o.toArgs := by
  have same_pairs : (ofArgs o.toArgs).pairs.Perm (pairsRead o.toArgs) := by
    apply perm_of_valuesOf
    intro key
    rw [valuesOf_pairs, getD_get?_ofArgs]
  have same_args : (ofArgs o.toArgs).toArgs.Perm o.toArgs := by
    rw [toArgs_eq (ofArgs o.toArgs)]
    refine (List.mergeSort_perm _ _).trans ?_
    have mapped := same_pairs.map fun pair => argument pair.1 pair.2
    rwa [map_argument_pairsRead_toArgs o] at mapped
  exact same_args.eq_of_pairwise (fun _ _ _ _ => String.le_antisymm) (Text.pairwise_mergeSort _)
    (Text.pairwise_mergeSort _)

/-- An option that can be told from its arguments. -/
structure PlainOption (key : String) (values : List String) : Prop where
  key_no_equals : '=' ∉ key.toList
  nonempty : values ≠ []
  ascending : values.Pairwise (· ≤ ·)

/-- What is read from rendered arguments are plain options. -/
theorem plainOption_of_get?_ofArgs (key : String) (values : List String)
    (found : (ofArgs o.toArgs).get? key = some values) : PlainOption key values := by
  obtain ⟨nonempty, rfl⟩ := (get?_ofArgs o.toArgs key values).1 found
  refine ⟨?_, nonempty, pairwise_valuesOf_pairsRead o key⟩
  obtain ⟨value, listed⟩ := List.exists_mem_of_ne_nil _ nonempty
  obtain ⟨⟨k, v⟩, member, -⟩ := List.mem_map.1 listed
  obtain ⟨read, same⟩ := List.mem_filter.1 member
  rw [← of_decide_eq_true same]
  exact no_equals_of_mem_pairsRead o k v read

/-- Keys without `=` are read as they were written, so all pairs come back in some order. -/
theorem perm_pairsRead_toArgs (plain : ∀ pair ∈ o.pairs, '=' ∉ pair.1.toList) :
    (pairsRead o.toArgs).Perm o.pairs := by
  have read_each : ∀ pair ∈ o.pairs, ofArgument? (argument pair.1 pair.2) = some pair :=
    fun pair member => ofArgument?_argument pair.1 pair.2 (plain pair member)
  have all_read : pairsRead (o.pairs.map fun pair => argument pair.1 pair.2) = o.pairs := by
    rw [pairsRead, List.filterMap_map]
    exact (List.filterMap_congr read_each).trans List.filterMap_some
  have sorted_pairs : (pairsRead o.toArgs).Perm
      (pairsRead (o.pairs.map fun pair => argument pair.1 pair.2)) := by
    rw [toArgs_eq]
    exact (List.mergeSort_perm _ _).filterMap ofArgument?
  exact all_read ▸ sorted_pairs

section

variable (plain : ∀ key values, o.get? key = some values → PlainOption key values)

include plain

theorem no_equals_of_mem_pairs (pair : String × String) (member : pair ∈ o.pairs) :
    '=' ∉ pair.1.toList := by
  obtain ⟨entry, listed, within⟩ := List.mem_flatMap.1 member
  obtain ⟨value, -, rfl⟩ := List.mem_map.1 within
  have found := (SortedMap.mem_entries_iff o.values entry.1 entry.2).1 listed
  exact (plain entry.1 entry.2 found).key_no_equals

/-- Sorting the arguments cannot change the order of values that were in order before. -/
theorem valuesOf_pairsRead_toArgs (key : String) :
    valuesOf key (pairsRead o.toArgs) = (o.get? key).getD [] := by
  have perm : (valuesOf key (pairsRead o.toArgs)).Perm (valuesOf key o.pairs) :=
    ((perm_pairsRead_toArgs o (no_equals_of_mem_pairs o plain)).filter _).map _
  rw [valuesOf_pairs] at perm
  have ascending : ((o.get? key).getD []).Pairwise (· ≤ ·) := by
    cases found : o.get? key with
    | none => exact .nil
    | some values => exact (plain key values found).ascending
  exact perm.eq_of_pairwise (fun _ _ _ _ => String.le_antisymm)
    (pairwise_valuesOf_pairsRead o key) ascending

/-- Plain options are read back as they were. -/
theorem ofArgs_toArgs : ofArgs o.toArgs = o := by
  apply ext_get?
  intro key
  apply Option.ext
  intro values
  rw [get?_ofArgs, valuesOf_pairsRead_toArgs o plain]
  cases found : o.get? key with
  | none => simp [eq_comm]
  | some given =>
    have nonempty := (plain key given found).nonempty
    constructor
    · rintro ⟨-, same⟩
      exact congrArg some same
    · rintro ⟨⟩
      exact ⟨nonempty, rfl⟩

end

/-- Options come back from their arguments exactly if they are all plain; the arguments come back in
any case. -/
theorem ofArgs_toArgs_iff :
    (ofArgs o.toArgs = o ↔ ∀ key values, o.get? key = some values → PlainOption key values) ∧
      (ofArgs o.toArgs).toArgs = o.toArgs := by
  refine ⟨⟨?_, ofArgs_toArgs o⟩, toArgs_ofArgs_toArgs o⟩
  intro same key values found
  rw [← same] at found
  exact plainOption_of_get?_ofArgs o key values found

end

/-- A key with `=` is cut short, but its argument stays the same. -/
example :
    let given : Options := ⟨.ofList [("log=level", ["debug"])]⟩
    given.toArgs = ["--log=level=debug"] ∧
      ofArgs given.toArgs = ⟨.ofList [("log", ["level=debug"])]⟩ := by
  decide +kernel

end Agent.Options

end TracingSidecar
