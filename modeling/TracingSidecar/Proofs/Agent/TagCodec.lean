import TracingSidecar.Agent.Tags
import TracingSidecar.Proofs.Agent.Arguments
import TracingSidecar.Proofs.Bindings

/-!
# The text of agent tags

Tags are written as one text and read back from it.  What reading gives is always plain: no key is
empty or contains `=` or `,`, and no value contains `,` (`plain_decode`).  Plain tags survive being
written and read (`decode_encode`), and no others do (`decode_encode_iff`); plainness is kept by
insertion and by merging.
-/

namespace TracingSidecar

namespace Text

section Lists

variable {α : Type} [DecidableEq α]

/-- No part contains the separator. -/
theorem not_mem_of_mem_splitOn (sep : α) (text part : List α) (member : part ∈ text.splitOn sep) :
    sep ∉ part := by
  induction text generalizing part with
  | nil =>
    cases List.mem_singleton.1 member
    simp
  | cons c rest ih =>
    rw [List.splitOn_cons_eq_if_modifyHead] at member
    split at member
    · rcases List.mem_cons.1 member with equal | later
      · simp [equal]
      · exact ih part later
    next different =>
      obtain ⟨first, others, cut⟩ := List.exists_cons_of_ne_nil (List.splitOn_ne_nil sep rest)
      rw [cut] at member ih
      rcases List.mem_cons.1 member with equal | later
      · have absent := ih first List.mem_cons_self
        rw [equal, List.mem_cons, not_or]
        exact ⟨Ne.symm (by simpa using different), absent⟩
      · exact ih part (List.mem_cons_of_mem _ later)

theorem cutFirst?_append_cons (sep : α) (before after : List α) (absent : sep ∉ before) :
    cutFirst? sep (before ++ sep :: after) = some (before, after) := by
  induction before with
  | nil => simp [cutFirst?]
  | cons c before ih =>
    rw [List.mem_cons, not_or] at absent
    obtain ⟨different, later⟩ := absent
    simp [cutFirst?, Ne.symm different, ih later]

/-- A text that can be cut is what stands before the first separator, the separator, and the
rest. -/
theorem eq_of_cutFirst? (sep : α) (text before after : List α)
    (cut : cutFirst? sep text = some (before, after)) :
    text = before ++ sep :: after ∧ sep ∉ before := by
  induction text generalizing before with
  | nil => cases cut
  | cons c rest ih =>
    unfold cutFirst? at cut
    split at cut
    next equal =>
      cases cut
      exact ⟨by rw [equal]; rfl, List.not_mem_nil⟩
    next different =>
      obtain ⟨⟨start, tail⟩, found, equal⟩ := Option.map_eq_some_iff.1 cut
      cases equal
      obtain ⟨whole, absent⟩ := ih start found
      refine ⟨by rw [whole]; rfl, ?_⟩
      rw [List.mem_cons, not_or]
      exact ⟨Ne.symm different, absent⟩

end Lists

theorem splitFirst?_append (sep : Char) (before after : String) (absent : sep ∉ before.toList) :
    splitFirst? sep (before ++ String.singleton sep ++ after) = some (before, after) := by
  simp [splitFirst?, cutFirst?_append_cons sep _ _ absent]

/-- Where a text can be cut at a separator, neither part loses a character, and the first part has
no separator. -/
theorem splitFirst?_parts (sep : Char) (text before after : String)
    (cut : splitFirst? sep text = some (before, after)) :
    text.toList = before.toList ++ sep :: after.toList ∧ sep ∉ before.toList := by
  obtain ⟨⟨start, rest⟩, found, equal⟩ := Option.map_eq_some_iff.1 cut
  cases equal
  simpa using eq_of_cutFirst? sep text.toList start rest found

end Text

namespace Agent.Tags

/-- A tag whose text can be told from those of its neighbours. -/
structure PlainTag (key value : String) : Prop where
  key_nonempty : key ≠ ""
  key_no_equals : '=' ∉ key.toList
  key_no_comma : ',' ∉ key.toList
  value_no_comma : ',' ∉ value.toList

/-- All tags are plain. -/
def Plain (t : Tags) : Prop := ∀ key value, t.get? key = some value → PlainTag key value

theorem plain_empty : Plain empty := by
  intro key value found
  cases found

theorem plain_insert (t : Tags) (key value : String) (plain : Plain t)
    (tag : PlainTag key value) : Plain (t.insert key value) := by
  intro other found_value found
  change (t.values.insert key value).get? other = some found_value at found
  rw [SortedMap.get?_insert] at found
  split at found
  next equal =>
    cases found
    rw [equal]
    exact tag
  next => exact plain other found_value found

theorem get?_merge (t other : Tags) (key : String) :
    (t.merge other).get? key = (other.get? key).or (t.get? key) :=
  SortedMap.get?_insertMany t.values other.values.entries other.values.ascend key

theorem plain_merge (t other : Tags) (plain : Plain t) (plain_other : Plain other) :
    Plain (t.merge other) := by
  intro key value found
  rw [get?_merge] at found
  cases given : other.get? key with
  | none =>
    rw [given] at found
    exact plain key value found
  | some replaced =>
    rw [given] at found
    cases found
    exact plain_other key value given

/-- Merging tags in again changes nothing. -/
theorem merge_merge (t other : Tags) : (t.merge other).merge other = t.merge other := by
  have included : ∀ key value, other.values.get? key = some value →
      (t.merge other).values.get? key = some value := by
    intro key value found
    have bindings := get?_merge t other key
    change (t.merge other).values.get? key = (other.values.get? key).or _ at bindings
    rw [bindings, found]
    rfl
  have same := SortedMap.insertMany_eq_self (t.merge other).values other.values included
  unfold merge at same ⊢
  rw [same]

/-! ### Reading what was written -/

theorem entry?_entryText (key value : String) (tag : PlainTag key value) :
    entry? (entryText (key, value)) = some (key, value) := by
  have cut := Text.splitFirst?_append '=' key value tag.key_no_equals
  have equals : String.singleton '=' = "=" := rfl
  rw [equals] at cut
  simp [ entry?, entryText, cut, tag.key_nonempty]

theorem filterMap_entryText (entries : List (String × String))
    (plain : ∀ entry ∈ entries, PlainTag entry.1 entry.2) :
    (entries.map entryText).filterMap entry? = entries := by
  induction entries with
  | nil => rfl
  | cons entry rest ih =>
    have first := entry?_entryText entry.1 entry.2 (plain entry List.mem_cons_self)
    have others := ih (fun other member => plain other (List.mem_cons_of_mem _ member))
    rw [List.map_cons, List.filterMap_cons_some first, others]

theorem entryText_no_comma (key value : String) (tag : PlainTag key value) :
    ',' ∉ (entryText (key, value)).toList := by
  have text : (entryText (key, value)).toList = key.toList ++ '=' :: value.toList := by
    simp [entryText]
  rw [text]
  intro member
  rcases List.mem_append.1 member with in_key | in_rest
  · exact tag.key_no_comma in_key
  · rcases List.mem_cons.1 in_rest with equal | in_value
    · exact absurd equal (by decide)
    · exact tag.value_no_comma in_value

theorem split_encode (t : Tags) (plain : Plain t) (nonempty : t.values.entries ≠ []) :
    Text.split ',' t.encode = t.values.entries.map entryText := by
  have absent : ∀ part ∈ (t.values.entries.map entryText).map String.toList, ',' ∉ part := by
    intro part member
    obtain ⟨text, text_member, rfl⟩ := List.mem_map.1 member
    obtain ⟨⟨key, value⟩, entry_member, rfl⟩ := List.mem_map.1 text_member
    have bound := (SortedMap.mem_entries_iff t.values key value).1 entry_member
    exact entryText_no_comma key value (plain key value bound)
  have parts := List.splitOn_intercalate ',' absent (by simpa using nonempty)
  have comma : ",".toList = [','] := rfl
  rw [Text.split, encode, String.toList_intercalate, comma, parts]
  simp [List.map_map, Function.comp_def]

/-- Plain tags are read back as they were written. -/
theorem decode_encode (t : Tags) (plain : Plain t) : decode t.encode = t := by
  have entries_plain : ∀ entry ∈ t.values.entries, PlainTag entry.1 entry.2 := by
    intro entry member
    exact plain entry.1 entry.2 ((SortedMap.mem_entries_iff t.values entry.1 entry.2).1 member)
  have read : (Text.split ',' t.encode).filterMap entry? = t.values.entries := by
    by_cases none_there : t.values.entries = []
    · have text : t.encode = "" := by simp [encode, none_there]
      rw [text, none_there]
      rfl
    · rw [split_encode t plain none_there, filterMap_entryText t.values.entries entries_plain]
  rw [decode, read, SortedMap.ofList_entries]

/-- Whatever the text, the tags read from it are plain. -/
theorem plain_decode (text : String) : Plain (decode text) := by
  intro key value found
  rcases SortedMap.get?_insertMany_origin _ _ key value found with member | earlier
  · obtain ⟨part, part_member, read⟩ := List.mem_filterMap.1 member
    obtain ⟨characters, cut, rfl⟩ := List.mem_map.1 part_member
    have no_comma := Text.not_mem_of_mem_splitOn ',' text.toList characters cut
    obtain ⟨parts, nonempty⟩ := Option.filter_eq_some_iff.1 read
    obtain ⟨whole, no_equals⟩ := Text.splitFirst?_parts '=' _ key value parts
    rw [String.toList_ofList] at whole
    rw [whole] at no_comma
    constructor
    · simpa using nonempty
    · exact no_equals
    · exact fun member => no_comma (List.mem_append_left _ member)
    · exact fun member => no_comma (List.mem_append_right _ (List.mem_cons_of_mem _ member))
  · cases earlier

/-- The tags that can be read from a text are the plain ones. -/
theorem exists_decode_eq_iff (t : Tags) : (∃ text, decode text = t) ↔ Plain t := by
  constructor
  · rintro ⟨text, rfl⟩
    exact plain_decode text
  · intro plain
    exact ⟨t.encode, decode_encode t plain⟩

/-- Tags come back from their text exactly if they are all plain; and what was read from a text,
however malformed, comes back in any case. -/
theorem decode_encode_iff (t : Tags) (text : String) :
    (decode t.encode = t ↔ ∀ key value, t.get? key = some value → PlainTag key value) ∧
      decode (decode text).encode = decode text := by
  refine ⟨⟨?_, decode_encode t⟩, decode_encode (decode text) (plain_decode text)⟩
  intro same
  exact (exists_decode_eq_iff t).1 ⟨t.encode, same⟩

/-- Malformed entries are dropped and the later of two namesakes counts; a key with a comma falls
apart. -/
example :
    (decode "garbage,,=x,team=a=b,team=web").encode = "team=web" ∧
      decode (Tags.encode ⟨.ofList [("a,b", "c")]⟩) = ⟨.ofList [("b", "c")]⟩ := by
  decide +kernel

theorem plain_ofArgs (args : List String) : Plain (ofArgs args) := by
  unfold ofArgs
  cases findArgument? tagsFlag args with
  | none => exact plain_empty
  | some text => exact plain_decode text

end Agent.Tags

/-! ### Finding the tag argument -/

namespace Agent

/-- Tags that were added to arguments without tags are read back from them. -/
theorem Tags.ofArgs_of_perm (t : Tags) (args shuffled : List String) (plain : t.Plain)
    (absent : findArgument? tagsFlag args = none) (perm : shuffled.Perm (args ++ [t.toArgument])) :
    ofArgs shuffled = t := by
  have found := findArgument?_of_perm tagsFlag t.encode args shuffled absent perm
  rw [ofArgs, found, Option.map_some, Option.getD_some, decode_encode t plain]

end Agent

end TracingSidecar
