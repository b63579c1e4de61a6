import TracingSidecar.Proofs.Injection.OptIn

/-!
# Which instance `true` stands for

A workload that accepts any instance gets one only where there is no doubt.  Among several
candidates this is the one in the workload's own namespace, if no other candidate is in it;
candidates elsewhere neither help nor hinder, and the order of the candidates means nothing
(`select?_iff_onlyCandidateIn`).
-/

namespace TracingSidecar

/-! ### Being the only one -/

/-- Exactly one item passes a test, and it is the given one. -/
theorem filter_eq_singleton_iff {α : Type} (p : α → Bool) (items : List α) (item : α) :
    items.filter p = [item] ↔ item ∈ items ∧ p item = true ∧ items.countP p = 1 := by
  constructor
  · intro alone
    have member : item ∈ items.filter p := by
      rw [alone]
      exact List.mem_singleton.2 rfl
    have passed := List.mem_filter.1 member
    refine ⟨passed.1, passed.2, ?_⟩
    rw [List.countP_eq_length_filter, alone, List.length_singleton]
  · rintro ⟨member, passed, once⟩
    rw [List.countP_eq_length_filter] at once
    obtain ⟨only, alone⟩ := List.length_eq_one_iff.1 once
    have among : item ∈ items.filter p := List.mem_filter.2 ⟨member, passed⟩
    rw [alone, List.mem_singleton] at among
    rw [alone, among]

theorem sole?_eq_some_iff {α : Type} (items : List α) (item : α) :
    sole? items = some item ↔ items = [item] := by
  match items with
  | [] => simp [sole?]
  | [only] => simp [sole?]
  | first :: second :: rest => simp [sole?]

/-- Among the candidates is this one in a namespace, and no other is in it. -/
structure OnlyCandidateIn (target : String) (candidates : List TracingInstance)
    (i : TracingInstance) : Prop where
  listed : i ∈ candidates
  inside : i.namespace? = some target
  once : (candidates.countP fun other => other.namespace? = some target) = 1

theorem onlyIn?_eq_some_iff (target : String) (candidates : List TracingInstance)
    (i : TracingInstance) :
    onlyIn? target candidates = some i ↔ OnlyCandidateIn target candidates i := by
  rw [onlyIn?_eq, sole?_eq_some_iff, filter_eq_singleton_iff, decide_eq_true_eq]
  constructor
  · rintro ⟨listed, inside, once⟩
    exact ⟨listed, inside, once⟩
  · rintro ⟨listed, inside, once⟩
    exact ⟨listed, inside, once⟩

/-- Where there are several candidates, only those in the namespace count. -/
theorem unambiguous?_of_several (target : String) (candidates : List TracingInstance)
    (several : 2 ≤ candidates.length) :
    unambiguous? target candidates = onlyIn? target candidates := by
  match candidates, several with
  | first :: second :: rest, _ => rfl

/-! ### Accepting any instance -/

/-- A workload accepts any instance if it or its namespace says `true`, neither names an instance,
and the workload does not decline. -/
structure Workload.AcceptsAny (w : Workload) (ns : Namespace) : Prop where
  own_unnamed : namesInstance (w.optIn?.getD "") = false
  inherited_unnamed : namesInstance (ns.optIn?.getD "") = false
  not_declined : saysFalse (w.optIn?.getD "") = false
  asked : saysTrue (w.optIn?.getD "") = true ∨ saysTrue (ns.optIn?.getD "") = true

section

variable (w : Workload) (ns : Namespace)

theorem Workload.AcceptsAny.isOptedIn (accepts : w.AcceptsAny ns) : w.isOptedIn ns = true := by
  have asked : (saysTrue (w.optIn?.getD "") || saysTrue (ns.optIn?.getD "")) = true :=
    Bool.or_eq_true_iff.2 accepts.asked
  rw [isOptedIn_eq, accepts.not_declined, asked, Bool.or_true, Bool.not_false, Bool.and_true]

theorem Workload.AcceptsAny.explicitName? (accepts : w.AcceptsAny ns) :
    explicitName? w ns = none := by
  simp [TracingSidecar.explicitName?, accepts.own_unnamed, accepts.inherited_unnamed]

/-- A workload that accepts any of several candidates gets the one in its own namespace. -/
theorem select?_of_acceptsAny (candidates : List TracingInstance) (accepts : w.AcceptsAny ns)
    (several : 2 ≤ candidates.length) :
    select? w ns candidates = onlyIn? (targetNamespace w ns) candidates := by
  rw [select?_of_unnamed w ns candidates accepts.isOptedIn accepts.explicitName?,
    unambiguous?_of_several _ _ several]

/-- Of several candidates an instance is selected for a workload that accepts any exactly if it is
the only one in the workload's namespace.  The candidates may come in any order, and those of other
namespaces may change as long as there are several. -/
theorem select?_iff_onlyCandidateIn (candidates : List TracingInstance)
    (accepts : w.AcceptsAny ns) (several : 2 ≤ candidates.length) :
    (∀ i, select? w ns candidates = some i ↔
      OnlyCandidateIn (targetNamespace w ns) candidates i) ∧
    (∀ shuffled, shuffled.Perm candidates → select? w ns shuffled = select? w ns candidates) ∧
    ∀ others : List TracingInstance, 2 ≤ others.length →
      (others.filter fun i => i.namespace? = some (targetNamespace w ns)) =
        (candidates.filter fun i => i.namespace? = some (targetNamespace w ns)) →
      select? w ns others = select? w ns candidates := by
  refine ⟨?_, ?_, ?_⟩
  · intro i
    rw [select?_of_acceptsAny w ns candidates accepts several]
    exact onlyIn?_eq_some_iff _ _ i
  · intro shuffled perm
    exact select?_perm_of_unnamed w ns candidates shuffled perm accepts.explicitName?
  · intro others others_several same_inside
    rw [select?_of_acceptsAny w ns candidates accepts several,
      select?_of_acceptsAny w ns others accepts others_several, onlyIn?_eq, onlyIn?_eq, same_inside]

end

/-- A deployment that takes any instance. -/
def Sample.undecided : Workload where
  metadata :=
    { name := some "undecided", namespaceName := some "store"
      annotations := some (.ofList [(injectKey, "TRUE")]) }
  body := .deployment none

/-- The instance next door is taken, whichever ones there are elsewhere; of two next door neither
is. -/
theorem select?_iff_onlyCandidateIn_store :
    let here := Sample.instanceAt "store" "prod"
    let also_here := Sample.instanceAt "store" "test"
    let elsewhere := Sample.instanceAt "tracing-a" "prod"
    let unplaced : TracingInstance := { metadata := { name := some "test" } }
    Sample.undecided.AcceptsAny {} ∧ 2 ≤ [elsewhere, here].length ∧
      select? Sample.undecided {} [elsewhere, here] = some here ∧
      select? Sample.undecided {} [here, elsewhere] = some here ∧
      select? Sample.undecided {} [unplaced, here, elsewhere] = some here ∧
      select? Sample.undecided {} [here, also_here] = none := by
  intro here also_here elsewhere unplaced
  have accepts : Sample.undecided.AcceptsAny {} :=
    ⟨by decide, by decide, by decide, by decide⟩
  obtain ⟨chosen, any_order, others_change⟩ :=
    select?_iff_onlyCandidateIn Sample.undecided {} [elsewhere, here] accepts (by decide)
  have taken := (chosen here).2 ⟨by decide, by decide, by decide⟩
  have shuffled := any_order [here, elsewhere] (List.Perm.swap _ _ _)
  have joined := others_change [unplaced, here, elsewhere] (by decide) (by decide)
  have undecidable : ∀ i, select? Sample.undecided {} [here, also_here] ≠ some i := by
    intro i selected
    have only := (select?_iff_onlyCandidateIn Sample.undecided {} [here, also_here] accepts
      (by decide)).1 i
    exact absurd (only.1 selected).once (by decide)
  exact ⟨accepts, by decide, taken, shuffled.trans taken, joined.trans taken,
    Option.eq_none_iff_forall_ne_some.2 undecidable⟩

end TracingSidecar
