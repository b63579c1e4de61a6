import TracingSidecar.Proofs.Naming
import TracingSidecar.Text.Cut

/-!
# Instance names as label values

An instance has a DNS subdomain of up to 253 characters as its name, and the value of a label has at
most 63 characters and ends in a letter or digit.  The cut name always is such a value and is never
empty (`isLabelValue_labelValue`), however long the run of separators is that the cut goes through:
its first character alone is a beginning that cutting may leave, and cutting leaves the longest.
-/

namespace TracingSidecar.Text

/-- What joined parts consist of is in a part, or the separator. -/
theorem eq_or_mem_of_mem_intercalate (sep c : Char) (parts : List (List Char))
    (member : c ∈ [sep].intercalate parts) : c = sep ∨ ∃ part ∈ parts, c ∈ part := by
  induction parts with
  | nil => cases member
  | cons part rest ih =>
    cases rest with
    | nil => exact Or.inr ⟨part, List.mem_cons_self, by simpa using member⟩
    | cons next others =>
      rw [List.intercalate_cons_cons, List.append_assoc, List.singleton_append] at member
      rcases List.mem_append.1 member with inside | behind
      · exact Or.inr ⟨part, List.mem_cons_self, inside⟩
      · rcases List.mem_cons.1 behind with rfl | later
        · exact Or.inl rfl
        · rcases ih later with rfl | ⟨found, among, inside⟩
          · exact Or.inl rfl
          · exact Or.inr ⟨found, List.mem_cons_of_mem _ among, inside⟩

/-- Joined parts begin as the first one does, unless that is empty. -/
theorem head?_intercalate (sep c : Char) (rest : List Char) (others : List (List Char)) :
    ([sep].intercalate ((c :: rest) :: others)).head? = some c := by
  cases others <;> simp [List.intercalate_cons_cons]

end TracingSidecar.Text

namespace TracingSidecar.Naming

/-- The first character of a text is an ASCII letter or digit; the empty text has none. -/
def startsPlain (text : String) : Bool := text.toList.head?.any Char.isAlphanum

/-- A character of a label value: an ASCII letter or digit, `-`, `_` or `.`. -/
def isLabelCharacter (c : Char) : Bool := c.isAlphanum || c == '-' || c == '_' || c == '.'

/-- A value that the API server accepts for a label. -/
structure IsLabelValue (value : String) : Prop where
  short : value.length ≤ 63
  characters : value.toList.all isLabelCharacter = true
  framed : value = "" ∨ startsPlain value = true ∧ endsPlain value = true

/-- A character of a DNS label: a lower-case ASCII letter, a digit or `-`. -/
def isDnsCharacter (c : Char) : Bool := c.isLower || c.isDigit || c == '-'

/-- A part of a DNS subdomain.  It has no limit of its own. -/
structure IsDnsLabel (part : String) : Prop where
  characters : part.toList.all isDnsCharacter = true
  starts : startsPlain part = true
  ends : endsPlain part = true

/-- A name that the API server accepts for an instance: DNS labels with dots between them. -/
structure IsSubdomain (name : String) : Prop where
  short : name.length ≤ 253
  parts : ∀ part ∈ Text.split '.' name, IsDnsLabel part

instance (part : String) : Decidable (IsDnsLabel part) :=
  decidable_of_iff (part.toList.all isDnsCharacter = true ∧ startsPlain part = true ∧
      endsPlain part = true)
    ⟨fun ⟨characters, starts, ends⟩ => ⟨characters, starts, ends⟩,
      fun label => ⟨label.characters, label.starts, label.ends⟩⟩

instance (name : String) : Decidable (IsSubdomain name) :=
  decidable_of_iff (name.length ≤ 253 ∧ ∀ part ∈ Text.split '.' name, IsDnsLabel part)
    ⟨fun ⟨short, parts⟩ => ⟨short, parts⟩, fun subdomain => ⟨subdomain.short, subdomain.parts⟩⟩

theorem isLabelCharacter_of_isDnsCharacter (c : Char) (dns : isDnsCharacter c = true) :
    isLabelCharacter c = true := by
  have letters : c.isAlphanum = (c.isUpper || c.isLower || c.isDigit) := rfl
  simp only [isDnsCharacter, isLabelCharacter, letters, Bool.or_eq_true] at dns ⊢
  tauto

theorem IsSubdomain.dnsLabel {name : String} (subdomain : IsSubdomain name) {part : List Char}
    (member : part ∈ name.toList.splitOn '.') : IsDnsLabel (String.ofList part) :=
  subdomain.parts _ (List.mem_map_of_mem member)

theorem IsSubdomain.characters {name : String} (subdomain : IsSubdomain name) :
    name.toList.all isLabelCharacter = true := by
  rw [List.all_eq_true]
  intro c member
  have whole : ['.'].intercalate (name.toList.splitOn '.') = name.toList :=
    List.intercalate_splitOn '.'
  rw [← whole] at member
  rcases Text.eq_or_mem_of_mem_intercalate '.' c _ member with rfl | ⟨part, among, inside⟩
  · decide
  · have dns := (subdomain.dnsLabel among).characters
    rw [String.toList_ofList, List.all_eq_true] at dns
    exact isLabelCharacter_of_isDnsCharacter c (dns c inside)

theorem IsSubdomain.starts {name : String} (subdomain : IsSubdomain name) :
    startsPlain name = true := by
  have whole : ['.'].intercalate (name.toList.splitOn '.') = name.toList :=
    List.intercalate_splitOn '.'
  obtain ⟨first, others, cut⟩ := List.exists_cons_of_ne_nil (List.splitOn_ne_nil '.' name.toList)
  have starts := (subdomain.dnsLabel (by rw [cut]; exact List.mem_cons_self)).starts
  rw [startsPlain, String.toList_ofList] at starts
  cases first with
  | nil => cases starts
  | cons c rest =>
    rw [startsPlain, ← whole, cut, Text.head?_intercalate]
    exact starts

/-- A beginning that is not empty starts as the whole text does. -/
theorem IsCut.starts {max : Nat} {text cut : String} (isCut : IsCut max text cut)
    (nonempty : cut ≠ "") (starts : startsPlain text = true) : startsPlain cut = true := by
  obtain ⟨rest, whole⟩ := isCut.start
  have characters : cut.toList ≠ [] := by simpa using nonempty
  rw [startsPlain, ← whole, List.head?_append_of_ne_nil _ characters] at starts
  exact starts

/-- Something is left of a text that starts with a letter or digit, if anything may be left. -/
theorem truncate_ne_empty (max : Nat) (text : String) (room : 0 < max)
    (starts : startsPlain text = true) : truncate max text ≠ "" := by
  rw [startsPlain, Option.any_eq_true] at starts
  obtain ⟨c, first, plain⟩ := starts
  obtain ⟨rest, whole⟩ := List.head?_eq_some_iff.1 first
  have single : IsCut max text (String.singleton c) := by
    refine ⟨?_, ?_, Or.inr ?_⟩
    · rw [whole]
      exact ⟨rest, by simp⟩
    · rw [String.length_singleton]
      exact room
    · simpa [endsPlain] using plain
  have longer := (isLongestCut_truncate max text).longest _ single
  intro empty
  rw [empty] at longer
  simp at longer

theorem isLabelValue_labelValue (text : String)
    (characters : text.toList.all isLabelCharacter = true)
    (starts : startsPlain text = true) : IsLabelValue (labelValue text) := by
  have cut : IsCut 63 text (labelValue text) := isCut_truncate 63 text
  refine ⟨cut.short, ?_, ?_⟩
  · rw [List.all_eq_true] at characters ⊢
    intro c member
    exact characters c (cut.start.subset member)
  · have nonempty := truncate_ne_empty 63 text (by decide) starts
    exact Or.inr ⟨cut.starts nonempty starts, cut.ends.resolve_left nonempty⟩

/-- Cutting leaves the longest beginning that is short enough and empty or ends in a letter or
digit, so it changes nothing a second time; and what it leaves of an instance's name is a label
value with a letter or digit at either end. -/
theorem truncate_leaves_longest (max : Nat) (text cut : String) :
    (truncate max text = cut ↔ IsLongestCut max text cut) ∧
      truncate max (truncate max text) = truncate max text ∧
      (IsSubdomain text →
        IsLabelValue (labelValue text) ∧ labelValue text ≠ "" ∧
          startsPlain (labelValue text) = true ∧ endsPlain (labelValue text) = true) := by
  refine ⟨truncate_eq_iff max text cut, truncate_truncate max text, ?_⟩
  intro subdomain
  have valid := isLabelValue_labelValue text subdomain.characters subdomain.starts
  have nonempty : labelValue text ≠ "" := truncate_ne_empty 63 text (by decide) subdomain.starts
  exact ⟨valid, nonempty, valid.framed.resolve_left nonempty⟩

/-- A name whose first 63 characters end in 59 separators. -/
def dashedName : String :=
  "prod------------------------------------------------------------x.tracing"

theorem truncate_leaves_longest_dashedName :
    IsSubdomain dashedName ∧ labelValue dashedName = "prod" ∧
      IsLongestCut 63 dashedName "prod" ∧ IsLabelValue (labelValue dashedName) := by
  have subdomain : IsSubdomain dashedName := by decide
  have cut : labelValue dashedName = "prod" := by decide
  obtain ⟨longest, -, valid⟩ := truncate_leaves_longest 63 dashedName "prod"
  exact ⟨subdomain, cut, longest.1 cut, (valid subdomain).1⟩

end TracingSidecar.Naming
