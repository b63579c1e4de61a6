import Mathlib.Data.List.Basic
import TracingSidecar.Agent.Arguments

/-!
# Finding arguments

An argument of a flag is found wherever it stands if it is the only one (`findArgument?_of_perm`).
Of several ones in sorted arguments, the one with the least value is found
(`findArgument?_of_sorted`): the order of values is that of the arguments, for they share the flag.
So arguments that get among sorted ones do not change what is found of a flag that none of them has
(`findArgument?_sorted_append`).
-/

namespace TracingSidecar

namespace Text

theorem stripPrefix?_eq_some_iff (start text rest : String) :
    stripPrefix? start text = some rest ↔ text = start ++ rest := by
  unfold stripPrefix?
  constructor
  · intro stripped
    obtain ⟨dropped, found, rfl⟩ := Option.map_eq_some_iff.1 stripped
    apply String.toList_injective
    rw [String.toList_append, String.toList_ofList, List.append_eq_of_isPrefixOf?_eq_some found]
  · rintro rfl
    have found : start.toList.isPrefixOf? (start ++ rest).toList = some rest.toList :=
      List.isPrefixOf?_eq_some_iff_append_eq.2 String.toList_append.symm
    rw [found, Option.map_some, String.ofList_toList]

theorem stripPrefix?_append (start rest : String) :
    stripPrefix? start (start ++ rest) = some rest :=
  (stripPrefix?_eq_some_iff start _ rest).2 rfl

theorem append_lt_append (start first second : String) (below : first < second) :
    start ++ first < start ++ second := by
  rw [String.lt_iff] at below ⊢
  rw [String.toList_append, String.toList_append]
  exact List.append_left_lt below

/-- Texts are ordered like what follows a beginning that they share. -/
theorem append_le_append_iff (start first second : String) :
    start ++ first ≤ start ++ second ↔ first ≤ second := by
  constructor
  · intro le
    exact String.not_lt.1 fun below => String.not_lt.2 le (append_lt_append start _ _ below)
  · intro le
    by_cases same : first = second
    · exact same ▸ String.le_refl _
    · have below : first < second :=
        String.not_le.1 fun above => same (String.le_antisymm le above)
      exact String.not_lt.1 (String.lt_asymm (append_lt_append start _ _ below))

theorem pairwise_mergeSort (texts : List String) : texts.mergeSort.Pairwise (· ≤ ·) := by
  have ascending : texts.mergeSort.Pairwise fun first second => decide (first ≤ second) :=
    List.pairwise_mergeSort (by simpa using fun _ _ _ => String.le_trans)
      (by simpa using String.le_total) texts
  simpa using ascending

/-- Of sorted texts, those that pass a test are the same if they were the same in any order. -/
theorem filter_mergeSort_congr (p : String → Bool) (texts others : List String)
    (same : (texts.filter p).Perm (others.filter p)) :
    texts.mergeSort.filter p = others.mergeSort.filter p := by
  have perm : (texts.mergeSort.filter p).Perm (others.mergeSort.filter p) :=
    ((texts.mergeSort_perm _).filter p).trans (same.trans ((others.mergeSort_perm _).filter p).symm)
  exact perm.eq_of_pairwise (fun _ _ _ _ => String.le_antisymm)
    ((pairwise_mergeSort texts).filter p) ((pairwise_mergeSort others).filter p)

/-- Of two beginnings of one text, one is a beginning of the other. -/
theorem prefix_or_prefix_of_append_eq (first second first_rest second_rest : String)
    (same : first ++ first_rest = second ++ second_rest) :
    first.toList <+: second.toList ∨ second.toList <+: first.toList := by
  have chars := congrArg String.toList same
  rw [String.toList_append, String.toList_append] at chars
  exact List.prefix_or_prefix_of_prefix (List.prefix_append first.toList first_rest.toList)
    (chars ▸ List.prefix_append second.toList second_rest.toList)

end Text

namespace Agent

theorem findArgument?_eq_none_iff (flag : String) (args : List String) :
    findArgument? flag args = none ↔ ∀ value, flag ++ value ∉ args := by
  unfold findArgument?
  rw [List.findSome?_eq_none_iff]
  constructor
  · intro none_strips value member
    have stripped := Text.stripPrefix?_append flag value
    rw [none_strips _ member] at stripped
    cases stripped
  · intro none_set argument member
    cases stripped : Text.stripPrefix? flag argument with
    | none => rfl
    | some value =>
      rw [(Text.stripPrefix?_eq_some_iff flag argument value).1 stripped] at member
      exact absurd member (none_set value)

theorem mem_of_findArgument? (flag value : String) (args : List String)
    (found : findArgument? flag args = some value) : flag ++ value ∈ args := by
  obtain ⟨argument, member, stripped⟩ := List.exists_of_findSome?_eq_some found
  rw [← (Text.stripPrefix?_eq_some_iff flag argument value).1 stripped]
  exact member

/-- An argument added for a flag that no other argument begins with is found wherever it stands. -/
theorem findArgument?_of_perm (flag value : String) (args shuffled : List String)
    (absent : findArgument? flag args = none) (perm : shuffled.Perm (args ++ [flag ++ value])) :
    findArgument? flag shuffled = some value := by
  cases found : findArgument? flag shuffled with
  | none =>
    have there : flag ++ value ∈ shuffled := perm.mem_iff.2 (by simp)
    exact absurd there ((findArgument?_eq_none_iff flag shuffled).1 found value)
  | some other =>
    have member := perm.mem_iff.1 (mem_of_findArgument? flag other shuffled found)
    rcases List.mem_append.1 member with earlier | last
    · exact absurd earlier ((findArgument?_eq_none_iff flag args).1 absent other)
    · rw [(String.append_right_inj flag).1 (List.mem_singleton.1 last)]

/-- How many arguments have a flag. -/
def occurrences (flag : String) (args : List String) : Nat :=
  args.countP fun argument => (Text.stripPrefix? flag argument).isSome

theorem occurrences_eq_zero (flag : String) (args : List String)
    (absent : findArgument? flag args = none) : occurrences flag args = 0 := by
  apply List.countP_eq_zero.2
  intro argument member
  simp [List.findSome?_eq_none_iff.1 absent argument member]

/-- An argument added for a flag that no other argument begins with is the only one of it. -/
theorem occurrences_of_perm (flag value : String) (args shuffled : List String)
    (absent : findArgument? flag args = none) (perm : shuffled.Perm (args ++ [flag ++ value])) :
    occurrences flag shuffled = 1 := by
  have before := occurrences_eq_zero flag args absent
  unfold occurrences at before ⊢
  rw [perm.countP_eq, List.countP_append, before]
  simp [Text.stripPrefix?_append]

/-- Arguments without a flag do not change what is found of it before them. -/
theorem findArgument?_append (flag : String) (args more : List String)
    (unset : ∀ value, flag ++ value ∉ more) :
    findArgument? flag (args ++ more) = findArgument? flag args := by
  have nothing := (findArgument?_eq_none_iff flag more).2 unset
  unfold findArgument? at nothing ⊢
  rw [List.findSome?_append, nothing, Option.or_none]

/-- Among sorted arguments, the least value of a flag is found. -/
theorem findArgument?_of_sorted (flag : String) (args : List String)
    (ascending : args.Pairwise (· ≤ ·)) (value : String) :
    findArgument? flag args = some value ↔
      flag ++ value ∈ args ∧ ∀ other, flag ++ other ∈ args → value ≤ other := by
  induction args with
  | nil => simp [findArgument?]
  | cons argument rest ih =>
    obtain ⟨least, rest_ascending⟩ := List.pairwise_cons.1 ascending
    unfold findArgument?
    rw [List.findSome?_cons]
    cases stripped : Text.stripPrefix? flag argument with
    | none =>
      have other_flag (other : String) : flag ++ other ≠ argument := by
        intro same
        rw [(Text.stripPrefix?_eq_some_iff flag argument other).2 same.symm] at stripped
        cases stripped
      simp only [List.mem_cons, other_flag, false_or]
      exact ih rest_ascending
    | some first =>
      have here := (Text.stripPrefix?_eq_some_iff flag argument first).1 stripped
      have first_least (other : String) (member : flag ++ other ∈ argument :: rest) :
          first ≤ other := by
        rw [← Text.append_le_append_iff flag, ← here]
        rcases List.mem_cons.1 member with same | later
        · exact same ▸ String.le_refl _
        · exact least _ later
      constructor
      · rintro ⟨⟩
        exact ⟨here ▸ List.mem_cons_self, first_least⟩
      · rintro ⟨member, value_least⟩
        have below := value_least first (here ▸ List.mem_cons_self)
        rw [String.le_antisymm (first_least value member) below]

/-- Sorted arguments that others are sorted into lose nothing that is found of a flag, unless one of
the others has it. -/
theorem findArgument?_sorted_append (flag : String) (args more : List String)
    (ascending : args.Pairwise (· ≤ ·)) (unset : ∀ value, flag ++ value ∉ more) :
    findArgument? flag (args ++ more).mergeSort = findArgument? flag args := by
  have same_values (value : String) :
      flag ++ value ∈ (args ++ more).mergeSort ↔ flag ++ value ∈ args := by
    rw [List.mem_mergeSort, List.mem_append, or_iff_left (unset value)]
  apply Option.ext
  intro value
  rw [findArgument?_of_sorted _ _ (Text.pairwise_mergeSort _),
    findArgument?_of_sorted _ _ ascending]
  simp only [same_values]

/-! ### Flags that cannot be mistaken for one another -/

/-- An argument has one of some flags. -/
def IsFlagged (flags : List String) (argument : String) : Prop :=
  ∃ flag ∈ flags, ∃ value, argument = flag ++ value

/-- A flag is neither the beginning of one of some others nor begins with one. -/
def Apart (flag : String) (others : List String) : Prop :=
  ∀ other ∈ others, ¬flag.toList <+: other.toList ∧ ¬other.toList <+: flag.toList

instance (flag : String) (others : List String) : Decidable (Apart flag others) :=
  inferInstanceAs (Decidable (∀ other ∈ others, _))

/-- Arguments of other flags do not set a flag that is apart from those. -/
theorem not_mem_of_apart (flag : String) (others args : List String) (apart : Apart flag others)
    (flagged : ∀ argument ∈ args, IsFlagged others argument) (value : String) :
    flag ++ value ∉ args := by
  intro member
  obtain ⟨other, listed, other_value, same⟩ := flagged _ member
  obtain ⟨not_shorter, not_longer⟩ := apart other listed
  rcases Text.prefix_or_prefix_of_append_eq _ _ _ _ same with shorter | longer
  · exact not_shorter shorter
  · exact not_longer longer

/-! ### Flags with a default -/

/-- The flags that tell how the collector is reached. -/
def connectionFlags : List String := [collectorFlag, tlsEnabledFlag, tlsCaFlag]

/-- The flags that a sidecar gets a default for. -/
def defaultedFlags : List String := [collectorFlag, tlsEnabledFlag, tlsCaFlag, tagsFlag]

/-- An argument has one of these flags at most, for none of them is the beginning of another. -/
theorem flag_eq_of_append (first second first_value second_value : String)
    (first_listed : first ∈ defaultedFlags) (second_listed : second ∈ defaultedFlags)
    (same : first ++ first_value = second ++ second_value) : first = second := by
  have apart : ∀ a ∈ defaultedFlags, ∀ b ∈ defaultedFlags, a.toList <+: b.toList → a = b := by
    decide
  rcases Text.prefix_or_prefix_of_append_eq _ _ _ _ same with shorter | longer
  · exact apart first first_listed second second_listed shorter
  · exact (apart second second_listed first first_listed longer).symm

end Agent

end TracingSidecar
