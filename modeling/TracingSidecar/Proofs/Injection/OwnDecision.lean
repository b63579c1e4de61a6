import Mathlib.Data.List.Forall2
import TracingSidecar.Proofs.Injection.OptOut

/-!
# Workloads that decide for themselves

A workload that names an instance, or says that it wants none, has decided for itself.  Its
namespace has no say then (`evaluate_ignores_namespace`): an evaluation looks at the namespace only
to find out whether a sidecar is asked for and which instance is to be selected, and both are
settled by what the workload says.  An evaluation leaves what the workload says, so the namespaces
have no say in any run of evaluations either (`Workload.after_ignores_namespaces`).
-/

namespace TracingSidecar

namespace Workload

/-- The texts in the places where a workload may ask for a sidecar, in their order of precedence. -/
def optInTexts (w : Workload) : List (Option String) :=
  [w.metadata.annotation? injectKey, w.metadata.annotation? olderInjectKey,
    w.metadata.label? injectKey, w.metadata.label? olderInjectKey]

/-- A workload has decided for itself if the first of its texts that is not empty names an instance
or says that it wants none. -/
structure Decides (w : Workload) (value : String) : Prop where
  first : (w.optInTexts.findSome? fun text => text.filter (· ≠ "")) = some value
  own : namesInstance value = true ∨ saysFalse value = true

/-- A workload asks for what the first of its texts says. -/
theorem optIn?_eq_findSome? (w : Workload) :
    w.optIn? = w.optInTexts.findSome? fun text => text.filter (· ≠ "") := by
  simp only [optIn?, optInValue?, firstValue?, optInTexts, List.findSome?_cons, List.findSome?_nil]
  cases (w.metadata.annotation? injectKey).filter (· ≠ "") <;>
    cases (w.metadata.annotation? olderInjectKey).filter (· ≠ "") <;> rfl

theorem Decides.optIn? {w : Workload} {value : String} (decides : w.Decides value) :
    w.optIn? = some value :=
  w.optIn?_eq_findSome?.trans decides.first

end Workload

section Decided

variable (w : Workload) (value : String) (decides : w.Decides value)

include decides

theorem isOptedIn_of_decides (ns : Namespace) :
    w.isOptedIn ns = requestsInjection (some value) := by
  rw [Workload.isOptedIn, decides.optIn?, Option.some_or]

/-- The instance is looked up by the name that the workload gives. -/
theorem explicitName?_of_decides (names : namesInstance value = true) (ns : Namespace) :
    explicitName? w ns = some value := by
  have accepts : saysFalse value = false := by
    simp only [namesInstance, Bool.and_eq_true, Bool.not_eq_true'] at names
    exact names.2
  simp [explicitName?, decides.optIn?, accepts, names]

theorem select?_of_decides (first second : Namespace) (instances : List TracingInstance) :
    select? w first instances = select? w second instances := by
  rcases decides.own with names | declines
  · have named := explicitName?_of_decides w value decides names
    rw [select?_of_named w first instances value (named first),
      select?_of_named w second instances value (named second)]
  · simp [select?, decides.optIn?, declines]

theorem evaluate_of_decides (config : InjectorConfig) (first second : Namespace)
    (instances : List TracingInstance) :
    evaluate config first instances w = evaluate config second instances w := by
  have asks : w.isOptedIn first = w.isOptedIn second := by
    rw [isOptedIn_of_decides w value decides, isOptedIn_of_decides w value decides]
  have selects := select?_of_decides w value decides first second instances
  -- Nothing else in an evaluation looks at the namespace.
  unfold evaluate Workload.needsSidecar
  rw [asks, selects]

end Decided

/-- An evaluation that reports a binding has injected the selected instance, and names it. -/
theorem evaluate_binds (config : InjectorConfig) (ns : Namespace)
    (instances : List TracingInstance) (w : Workload) (name : String)
    (binds : (evaluate config ns instances w).1 = .injected name ∨
      (evaluate config ns instances w).1 = .updated name) :
    ∃ i, select? w ns instances = some i ∧ i.anyName = name ∧
      (evaluate config ns instances w).2 = config.inject i w := by
  have outcome := evaluate_outcome config ns instances w
  generalize evaluate config ns instances w = once at outcome binds ⊢
  cases outcome with
  | kept evaluation unchanged => rcases unchanged with rfl | rfl <;> simp at binds
  | bound evaluation i named opted selected =>
    refine ⟨i, selected, ?_, rfl⟩
    rcases named with rfl | rfl <;> simpa using binds
  | cleaned previous opted unbound => simp at binds

/-- A workload that decides for itself is evaluated alike in any two namespaces; and if it names an
instance, it is bound to an instance of just this name or not at all. -/
theorem evaluate_ignores_namespace (config : InjectorConfig) (instances : List TracingInstance)
    (w : Workload) (value : String) (decides : w.Decides value) :
    (∀ first second,
      evaluate config first instances w = evaluate config second instances w) ∧
    (namesInstance value = true → ∀ ns name,
      (evaluate config ns instances w).1 = .injected name ∨
        (evaluate config ns instances w).1 = .updated name →
      name = value ∧ ∃ i ∈ instances, i.anyName = value ∧
        (evaluate config ns instances w).2 = config.inject i w) := by
  refine ⟨fun first second => evaluate_of_decides w value decides config first second instances, ?_⟩
  intro names ns name binds
  obtain ⟨i, selected, named, injected⟩ := evaluate_binds config ns instances w name binds
  rw [select?_of_named w ns instances value
    (explicitName?_of_decides w value decides names ns)] at selected
  have asked_for : i.anyName = value := by simpa using List.find?_some selected
  exact ⟨named.symm.trans asked_for, i, List.mem_of_find?_eq_some selected, asked_for, injected⟩

/-- A stateful set that asks for the instance `prod` by the last label in the order, behind an
annotation that is empty. -/
def Sample.stubborn : Workload where
  metadata :=
    { name := some "stubborn", namespaceName := some "store"
      annotations := some (.ofList [(injectKey, "")])
      labels := some (.ofList [(olderInjectKey, "prod")]) }
  body := .statefulSet (some
    { settings := {}
      template := { spec := some { containers := [{ name := "web" }] } } })

/-- It is bound to `prod`, whether its namespace asks for another instance or for none. -/
theorem evaluate_ignores_namespace_stubborn :
    let staging := Sample.instanceAt "store" "staging"
    let prod := Sample.instanceAt "tracing" "prod"
    let evaluated := evaluate {} (Sample.asking "staging") [staging, prod] Sample.stubborn
    Sample.stubborn.Decides "prod" ∧
      evaluated = evaluate {} (Sample.asking "false") [staging, prod] Sample.stubborn ∧
      evaluated.1 = .injected "prod" ∧
      ∃ i ∈ [staging, prod], i.anyName = "prod" ∧
        evaluated.2 = InjectorConfig.inject {} i Sample.stubborn := by
  intro staging prod evaluated
  have decides : Sample.stubborn.Decides "prod" := ⟨by decide, Or.inl (by decide)⟩
  obtain ⟨ignores, binds⟩ :=
    evaluate_ignores_namespace {} [staging, prod] Sample.stubborn "prod" decides
  have injected : evaluated.1 = .injected "prod" := by decide
  exact ⟨decides, ignores _ _, injected, (binds (by decide) _ _ (Or.inl injected)).2⟩

/-! ### Runs -/

/-- The decision of a workload stands after an evaluation. -/
theorem Occasion.decides_apply (o : Occasion) (w : Workload) (value : String)
    (decides : w.Decides value) (leaves : w.kind = .pod → o.config.LeavesOptIn) :
    (o.apply w).Decides value := by
  refine ⟨?_, decides.own⟩
  rw [← Workload.optIn?_eq_findSome?, o.optIn?_apply w leaves, decides.optIn?]

/-- Where a workload decides for itself, runs of evaluations that differ in the namespaces only
leave the same. -/
theorem Workload.after_ignores_namespaces (w : Workload) (value : String)
    (run other : List Occasion) (decides : w.Decides value)
    (alike : List.Forall₂ (fun o p => o.config = p.config ∧ o.instances = p.instances) run other)
    (leaves : w.kind = .pod → ∀ o ∈ run, o.config.LeavesOptIn) :
    w.after run = w.after other := by
  induction alike generalizing w with
  | nil => rfl
  | @cons o p run other same _ ih =>
    have first : o.apply w = p.apply w := by
      unfold Occasion.apply
      rw [evaluate_of_decides w value decides o.config o.ns p.ns, same.1, same.2]
    have leaves_first := fun pod => leaves pod o List.mem_cons_self
    rw [after_cons, after_cons, ← first]
    apply ih (o.apply w) (o.decides_apply w value decides leaves_first)
    intro pod later member
    rw [o.kind_apply] at pod
    exact leaves pod later (List.mem_cons_of_mem _ member)

end TracingSidecar
