import TracingSidecar.Discovery.Wait
import TracingSidecar.Proofs.Discovery.Recommendation

/-!
# What a poll finds

A poll reads every version of the group of instances, and then looks for the definition in the one
version that the group recommends.  It finds the definition exactly if it is served, every version
can be read and the version of the definition is the recommended one (`finds_groups_iff`).
-/

namespace TracingSidecar.Discovery

/-! ### What a poll finds -/

section

variable (served : List ServedGroup)

/-- What is read when a version of the group of instances is asked for by its name. -/
def readAs? (name : String) : Option ServedVersion :=
  (Target.parse? (versionAddress name)).bind fun target => servedAt? served target.path

/-- The entries of the catalogue for the group of instances. -/
def instanceEntries : List ServedGroup := served.filter (·.name = instanceGroup)

/-- Every version that is listed for the group of instances can be read, and each entry lists one. -/
def Readable : Prop :=
  ∀ entry ∈ instanceEntries served, entry.versions ≠ [] ∧
    ∀ v ∈ entry.versions, ∃ read, readAs? served v.name = some read

theorem readVersions_complete_iff (versions : List ServedVersion) :
    (readVersions served versions).2 = true ↔
      ∀ v ∈ versions, ∃ read, readAs? served v.name = some read := by
  induction versions with
  | nil => simp [readVersions]
  | cons version rest ih =>
    unfold readVersions
    rw [List.forall_mem_cons, ← ih]
    cases parsed : Target.parse? (versionAddress version.name) with
    | none => simp [readAs?, parsed]
    | some target =>
      cases read : servedAt? served target.path <;> simp [readAs?, parsed, read]

/-- Entries are read all or not at all. -/
theorem entries_readEntries_iff (groups read : List ServedGroup) :
    (readEntries served groups).entries = some read ↔
      (∀ entry ∈ instanceEntries groups, entry.versions ≠ [] ∧
        ∀ v ∈ entry.versions, ∃ read, readAs? served v.name = some read) ∧
      read = instanceEntries groups := by
  induction groups generalizing read with
  | nil => simp [readEntries, instanceEntries, eq_comm]
  | cons group rest ih =>
    unfold readEntries
    by_cases own : group.name = instanceGroup
    · have split_entries : instanceEntries (group :: rest) = group :: instanceEntries rest := by
        simp [instanceEntries, own]
      rw [if_pos own, split_entries, List.forall_mem_cons, ← readVersions_complete_iff]
      by_cases no_versions : group.versions = []
      · simp [no_versions]
      · by_cases complete : (readVersions served group.versions).2 = true
        · simp only [no_versions, complete, List.isEmpty_iff, if_false, if_true, ne_eq,
            not_false_eq_true, true_and, Option.map_eq_some_iff, ih]
          constructor
          · rintro ⟨more, ⟨readable, rfl⟩, rfl⟩
            exact ⟨readable, rfl⟩
          · rintro ⟨readable, rfl⟩
            exact ⟨_, ⟨readable, rfl⟩, rfl⟩
        · simp [no_versions, complete]
    · have same_entries : instanceEntries (group :: rest) = instanceEntries rest := by
        simp [instanceEntries, own]
      rw [if_neg own, same_entries, ih]

theorem eq_of_servedAt? (path : String) (v : ServedVersion)
    (found : servedAt? served path = some v) : path = versionAddress v.name := by
  have matched := List.find?_some found
  rw [Bool.and_eq_true] at matched
  exact (of_decide_eq_true matched.2).symm

theorem versionAddress_injective (a b : String) (same : versionAddress a = versionAddress b) :
    a = b := by
  unfold versionAddress at same
  exact (String.append_right_inj _).1 same

/-- What the wait is for: the version of the definition is served with its kind. -/
def ServesDefinition : Prop :=
  ∃ v, servedAt? served (versionAddress instanceVersion) = some v ∧ instanceKind ∈ v.kinds

/-- The version that the last entry for the group recommends is read at the address of the version
of the definition. -/
def RecommendsDefinition : Prop :=
  ∃ entry name target, (instanceEntries served).getLast? = some entry ∧ entry.Recommends name ∧
    Target.parse? (versionAddress name) = some target ∧
    target.path = versionAddress instanceVersion

theorem hasDefinition_iff (v : ServedVersion) :
    hasDefinition v = true ↔ v.name = instanceVersion ∧ instanceKind ∈ v.kinds := by
  simp [hasDefinition]

theorem recommendedVersion?_iff (entry : ServedGroup) (v : ServedVersion) :
    recommendedVersion? served entry = some v ↔ ∃ name target, entry.Recommends name ∧
      Target.parse? (versionAddress name) = some target ∧ servedAt? served target.path = some v := by
  simp only [recommendedVersion?, Option.bind_eq_bind, Option.bind_eq_some_iff,
    ServedGroup.recommended?_eq_some_iff, ← exists_and_left]

/-- A poll finds the definition if it is served in the version that its group recommends, and every
version of the group can be read. -/
theorem finds_groups_iff : (Poll.groups served).finds = true ↔
    ServesDefinition served ∧ Readable served ∧ RecommendsDefinition served := by
  cases read : (readEntries served served).entries with
  | none =>
    have unreadable : ¬ Readable served := by
      intro readable
      have complete := (entries_readEntries_iff served served _).2 ⟨readable, rfl⟩
      cases read.symm.trans complete
    simp [Poll.finds, read, unreadable]
  | some entries =>
    obtain ⟨readable, rfl⟩ := (entries_readEntries_iff served served entries).1 read
    simp only [Poll.finds, read, Option.any_eq_true, Option.bind_eq_some_iff, hasDefinition_iff,
      recommendedVersion?_iff]
    constructor
    · rintro ⟨v, ⟨entry, last, name, target, recommended, parsed, found⟩, named, kind⟩
      have address := eq_of_servedAt? served target.path v found
      rw [named] at address
      exact ⟨⟨v, address ▸ found, kind⟩, readable, entry, name, target, last, recommended, parsed,
        address⟩
    · rintro ⟨⟨v, found, kind⟩, -, entry, name, target, last, recommended, parsed, address⟩
      have named := versionAddress_injective _ _ (eq_of_servedAt? served _ v found)
      exact ⟨v, ⟨entry, last, name, target, recommended, parsed, address ▸ found⟩, named.symm, kind⟩

end

/-- A poll sees the definition served. -/
def Poll.Serves : Poll → Prop
  | .unreadable => False
  | .groups served => ServesDefinition served

/-- A poll sees the version of the definition recommended, and all that it asks for can be read. -/
def Poll.Recommends : Poll → Prop
  | .unreadable => False
  | .groups served => Readable served ∧ RecommendsDefinition served

theorem Poll.finds_iff (poll : Poll) : poll.finds = true ↔ poll.Serves ∧ poll.Recommends := by
  cases poll with
  | unreadable => simp [finds, Serves]
  | groups served => exact finds_groups_iff served

end TracingSidecar.Discovery
