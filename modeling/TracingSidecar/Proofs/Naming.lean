import Mathlib.Data.List.DropRight
import TracingSidecar.Naming

/-!
# Names that were cut, and names derived from names

Cutting a text leaves the longest of its beginnings that are short enough and empty or end in an
ASCII letter or digit (`truncate_eq_iff`).  A text that is such a beginning of itself, and no other,
is left as it is (`truncate_eq_self_iff`), so a name that was cut to fit is not cut again
(`labelValue_labelValue`): the marker of a workload is its own label value.  The names of the trust
bundle volumes give away the instance they belong to (`eq_of_mem_caNames`).
-/

namespace TracingSidecar.Naming

/-- The last character of a text is an ASCII letter or digit; the empty text has none. -/
def endsPlain (text : String) : Bool := text.toList.getLast?.any Char.isAlphanum

theorem trimEnd_eq_rdropWhile (text : List Char) :
    trimEnd text = text.rdropWhile fun c => !c.isAlphanum := rfl

theorem trimEnd_prefix (text : List Char) : trimEnd text <+: text := by
  rw [trimEnd_eq_rdropWhile]
  exact List.rdropWhile_prefix _ _

theorem getLast?_trimEnd (text : List Char) :
    trimEnd text = [] ∨ (trimEnd text).getLast?.any Char.isAlphanum = true := by
  rw [trimEnd_eq_rdropWhile, or_iff_not_imp_left]
  intro nonempty
  have kept := List.rdropWhile_last_not _ _ nonempty
  rw [List.getLast?_eq_some_getLast nonempty]
  simpa using kept

/-- Trimming takes away no more than it has to: a beginning with an end that may stay is a beginning
of what is left. -/
theorem prefix_trimEnd (text start : List Char) (begins : start <+: text)
    (ends : start = [] ∨ start.getLast?.any Char.isAlphanum = true) : start <+: trimEnd text := by
  rw [trimEnd_eq_rdropWhile]
  -- Characters go from the end, so the induction takes the text from its end.
  induction text using List.reverseRecOn with
  | nil => exact begins
  | append_singleton text c ih =>
    by_cases plain : c.isAlphanum = true
    · rw [List.rdropWhile_concat_neg _ _ _ (by simp [plain])]
      exact begins
    · rw [List.rdropWhile_concat_pos _ _ _ (by simp [plain])]
      rcases List.prefix_concat_iff.1 begins with rfl | shorter
      · simp [plain] at ends
      · exact ih shorter

/-- What cutting may leave of a text: a beginning with at most `max` characters that is empty or
ends in an ASCII letter or digit. -/
structure IsCut (max : Nat) (text cut : String) : Prop where
  start : cut.toList <+: text.toList
  short : cut.length ≤ max
  ends : cut = "" ∨ endsPlain cut = true

/-- The longest of the beginnings that cutting may leave. -/
structure IsLongestCut (max : Nat) (text cut : String) : Prop extends IsCut max text cut where
  longest : ∀ other, IsCut max text other → other.length ≤ cut.length

theorem isCut_truncate (max : Nat) (text : String) : IsCut max text (truncate max text) := by
  have trimmed := trimEnd_prefix (text.toList.take max)
  refine ⟨?_, ?_, ?_⟩
  · rw [truncate, String.toList_ofList]
    exact trimmed.trans (List.take_prefix _ _)
  · rw [truncate, String.length_ofList]
    exact trimmed.length_le.trans (List.length_take_le _ _)
  · rw [endsPlain, truncate, String.toList_ofList, String.ofList_eq_empty_iff]
    exact getLast?_trimEnd _

theorem isLongestCut_truncate (max : Nat) (text : String) :
    IsLongestCut max text (truncate max text) := by
  refine ⟨isCut_truncate max text, ?_⟩
  intro other cut
  have within : other.toList <+: text.toList.take max := by
    rw [List.prefix_take_iff, String.length_toList]
    exact ⟨cut.start, cut.short⟩
  have ends : other.toList = [] ∨ other.toList.getLast?.any Char.isAlphanum = true :=
    cut.ends.imp_left fun empty => by rw [empty]; rfl
  have longer := (prefix_trimEnd _ _ within ends).length_le
  rwa [String.length_toList, ← String.length_ofList] at longer

/-- Two beginnings of one text are the same if they are equally long. -/
theorem IsLongestCut.unique (max : Nat) (text cut other : String)
    (longest : IsLongestCut max text cut) (also : IsLongestCut max text other) : cut = other := by
  have length : cut.length = other.length :=
    Nat.le_antisymm (also.longest cut longest.toIsCut) (longest.longest other also.toIsCut)
  rw [← String.length_toList, ← String.length_toList] at length
  have within := List.prefix_of_prefix_length_le longest.start also.start length.le
  exact String.toList_inj.1 (within.eq_of_length length)

theorem truncate_eq_iff (max : Nat) (text cut : String) :
    truncate max text = cut ↔ IsLongestCut max text cut := by
  constructor
  · rintro rfl
    exact isLongestCut_truncate max text
  · intro longest
    exact (isLongestCut_truncate max text).unique max text _ _ longest

/-- Cutting leaves exactly those texts as they are that are short enough and end well. -/
theorem truncate_eq_self_iff (max : Nat) (text : String) :
    truncate max text = text ↔ text.length ≤ max ∧ (text = "" ∨ endsPlain text = true) := by
  rw [truncate_eq_iff]
  constructor
  · intro longest
    exact ⟨longest.short, longest.ends⟩
  · rintro ⟨short, ends⟩
    refine ⟨⟨List.prefix_rfl, short, ends⟩, ?_⟩
    intro other cut
    simpa only [String.length_toList] using cut.start.length_le

/-- Cutting a text that was cut to the same length changes nothing. -/
theorem truncate_truncate (max : Nat) (text : String) :
    truncate max (truncate max text) = truncate max text := by
  have cut := isCut_truncate max text
  exact (truncate_eq_self_iff max _).2 ⟨cut.short, cut.ends⟩

theorem labelValue_labelValue (text : String) : labelValue (labelValue text) = labelValue text :=
  truncate_truncate _ _

/-- The names of the trust bundle volumes of an instance. -/
def caNames (instanceName : String) : List String :=
  [trustedCa instanceName, serviceCa instanceName]

/-- Texts with endings of one length are equal only if what stands before is. -/
theorem append_left_cancel_of_length (a b s t : String) (length : s.length = t.length)
    (equal : a ++ s = b ++ t) : a = b := by
  have lists := congrArg String.toList equal
  rw [String.toList_append, String.toList_append] at lists
  have same_length : s.toList.length = t.toList.length := by
    simpa only [String.length_toList] using length
  exact String.toList_inj.1 (List.append_inj_left' lists same_length)

/-- No two instances with different names have a trust bundle volume of one name. -/
theorem eq_of_mem_caNames (a b name : String) (ofA : name ∈ caNames a) (ofB : name ∈ caNames b) :
    a = b := by
  obtain ⟨s, s_length, rfl⟩ : ∃ s : String, s.length = 11 ∧ name = a ++ s := by
    rcases List.mem_pair.1 ofA with rfl | rfl
    · exact ⟨"-trusted-ca", by decide, rfl⟩
    · exact ⟨"-service-ca", by decide, rfl⟩
  rcases List.mem_pair.1 ofB with equal | equal
  · exact append_left_cancel_of_length a b s "-trusted-ca" (by rw [s_length]; decide) equal
  · exact append_left_cancel_of_length a b s "-service-ca" (by rw [s_length]; decide) equal

theorem not_mem_caNames_of_length_lt (instanceName name : String) (short : name.length < 11) :
    name ∉ caNames instanceName := by
  intro named
  rcases List.mem_pair.1 named with rfl | rfl
  · have longer : (trustedCa instanceName).length = instanceName.length + 11 :=
      String.length_append _ _
    omega
  · have longer : (serviceCa instanceName).length = instanceName.length + 11 :=
      String.length_append _ _
    omega

end TracingSidecar.Naming
