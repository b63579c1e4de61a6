import TracingSidecar.Discovery.Catalogue

/-!
# The recommended version

A group recommends the version that it prefers, and if it prefers none the first of those versions
that no other one is above (`recommended?_eq_some_iff`).  To be above is a strict weak order on
versions, so that comparing each version with the best of those behind it is enough.
-/

namespace TracingSidecar

namespace Stability

/-- Optional numbers in order, with none in front. -/
def minorRank (m : Option Nat) : Nat := m.elim 0 (· + 1)

theorem minorAbove_eq_true_iff (m n : Option Nat) :
    minorAbove m n = true ↔ minorRank n < minorRank m := by
  cases m <;> cases n <;> simp [minorAbove, minorRank]

theorem minorAbove_eq_false_iff (m n : Option Nat) :
    minorAbove m n = false ↔ minorRank m ≤ minorRank n := by
  rw [← Bool.not_eq_true, minorAbove_eq_true_iff, Nat.not_lt]

theorem not_above_of_above (a b : Stability) (higher : a.above b = true) : b.above a = false := by
  cases a <;> cases b
  case unknown.unknown a b =>
    have below : a < b := of_decide_eq_true higher
    exact decide_eq_false (String.lt_asymm below)
  all_goals
    simp [above, minorAbove_eq_true_iff, minorAbove_eq_false_iff] at higher ⊢ <;> omega

theorem not_above_trans (a b c : Stability) (first : a.above b = false) (second : b.above c = false) :
    a.above c = false := by
  cases a <;> cases b <;> cases c
  case unknown.unknown.unknown a b c =>
    have upper : b ≤ a := String.not_lt.1 (of_decide_eq_false first)
    have lower : c ≤ b := String.not_lt.1 (of_decide_eq_false second)
    exact decide_eq_false (String.not_lt.2 (String.le_trans lower upper))
  all_goals
    simp [above, minorAbove_eq_false_iff] at first second ⊢ <;> omega

end Stability

namespace ServedGroup

/-- The first of those versions that no other one is above. -/
def IsHighest (versions : List ServedVersion) (best : ServedVersion) : Prop :=
  ∃ before after, versions = before ++ best :: after ∧
    (∀ v ∈ before, (Stability.ofName best.name).above (Stability.ofName v.name) = true) ∧
    ∀ v ∈ after, (Stability.ofName v.name).above (Stability.ofName best.name) = false

theorem eq_nil_of_highest? (versions : List ServedVersion) (nothing : highest? versions = none) :
    versions = [] := by
  cases versions with
  | nil => rfl
  | cons version rest =>
    unfold highest? at nothing
    split at nothing
    · cases nothing
    · split at nothing <;> cases nothing

theorem isHighest_of_highest? (versions : List ServedVersion) (best : ServedVersion)
    (found : highest? versions = some best) : IsHighest versions best := by
  induction versions generalizing best with
  | nil => cases found
  | cons version rest ih =>
    unfold highest? at found
    split at found
    next nothing =>
      cases found
      rw [eq_nil_of_highest? rest nothing]
      exact ⟨[], [], rfl, by simp, by simp⟩
    next later later_found =>
      obtain ⟨before, after, whole, below, not_above⟩ := ih later later_found
      split at found
      next higher =>
        cases found
        refine ⟨version :: before, after, by rw [whole]; rfl, ?_, not_above⟩
        intro v member
        rcases List.mem_cons.1 member with rfl | member
        · exact higher
        · exact below v member
      next lower =>
        cases found
        rw [Bool.not_eq_true] at lower
        refine ⟨[], rest, rfl, by simp, ?_⟩
        intro v member
        rw [whole] at member
        -- in front of the best of the rest all is below it, and behind it nothing is above it
        rcases List.mem_append.1 member with in_front | at_best
        · have under := Stability.not_above_of_above _ _ (below v in_front)
          exact Stability.not_above_trans _ _ _ under lower
        · rcases List.mem_cons.1 at_best with rfl | behind
          · exact lower
          · exact Stability.not_above_trans _ _ _ (not_above v behind) lower

theorem highest?_of_isHighest (versions : List ServedVersion) (best : ServedVersion)
    (highest : IsHighest versions best) : highest? versions = some best := by
  obtain ⟨before, after, rfl, below, not_above⟩ := highest
  induction before with
  | nil =>
    unfold highest?
    rw [List.nil_append]
    dsimp only
    cases found : highest? after with
    | none => rfl
    | some later =>
      obtain ⟨front, back, rfl, -, -⟩ := isHighest_of_highest? after later found
      have lower := not_above later (by simp)
      simp [lower]
  | cons version before ih =>
    have later := ih fun v member => below v (List.mem_cons_of_mem _ member)
    rw [List.cons_append, highest?, later]
    exact if_pos (below version List.mem_cons_self)

/-- A group recommends the version that it prefers, if it lists it; a group that prefers none
recommends the first of those versions that no other one is above. -/
inductive Recommends (group : ServedGroup) (name : String) : Prop where
  | preferred (chosen : group.preferred = some name) (v : ServedVersion) (listed : v ∈ group.versions)
      (named : v.name = name)
  | highest (open_choice : group.preferred = none) (v : ServedVersion)
      (best : IsHighest group.versions v) (named : v.name = name)

theorem Recommends.listed {group : ServedGroup} {name : String}
    (recommended : group.Recommends name) : ∃ v ∈ group.versions, v.name = name := by
  cases recommended with
  | preferred _ v listed named => exact ⟨v, listed, named⟩
  | highest _ v best named =>
    obtain ⟨before, after, whole, -, -⟩ := best
    exact ⟨v, by rw [whole]; simp, named⟩

theorem recommended?_eq_some_iff (group : ServedGroup) (name : String) :
    group.recommended? = some name ↔ group.Recommends name := by
  have listed_iff : (group.versions.any (·.name = name)) = true ↔
      ∃ v ∈ group.versions, v.name = name := by simp
  unfold recommended?
  rw [Option.filter_eq_some_iff, listed_iff]
  constructor
  · rintro ⟨chosen, v, listed, named⟩
    cases wish : group.preferred with
    | some preferred =>
      rw [wish] at chosen
      exact .preferred (wish.trans chosen) v listed named
    | none =>
      rw [wish, Option.none_or] at chosen
      obtain ⟨best, found, named⟩ := Option.map_eq_some_iff.1 chosen
      exact .highest wish best (isHighest_of_highest? _ _ found) named
  · rintro (⟨chosen, v, listed, named⟩ | ⟨wish, v, best, named⟩)
    · exact ⟨by rw [chosen]; rfl, v, listed, named⟩
    · have found := highest?_of_isHighest _ _ best
      have recommended := Recommends.highest wish v best named
      exact ⟨by rw [wish, found, ← named]; rfl, recommended.listed⟩

end ServedGroup

end TracingSidecar
