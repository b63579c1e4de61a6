import TracingSidecar.Proofs.Injection.Report

/-!
# When a sidecar is removed

A workload that has an agent loses it in an evaluation exactly if the sidecar was injected and is
not asked for any more, and the workload is one that evaluations may touch (`sidecar_removed_iff`).
The instances have no say in this: with the bound one gone, or several to choose from, the sidecar
stays as it is.  So as long as the opt-in stands, no run of evaluations takes the agent away
(`hasAgent_after`).
-/

namespace TracingSidecar

section WithAgent

variable (config : InjectorConfig) (ns : Namespace) (instances : List TracingInstance)
  (w : Workload)

/-- Others answer for components of the backend, and for pods that a controller made. -/
theorem evaluate_of_foreign (foreign : (w.isBackendComponent || w.isControlled) = true) :
    evaluate config ns instances w = (.noOp, w) := by
  unfold evaluate
  exact if_pos foreign

/-- An agent without a marker was added by hand. -/
theorem evaluate_of_manual (agent : w.hasAgent = true) (unmarked : w.boundTo? = none) :
    evaluate config ns instances w = (.noOp, w) := by
  have satisfied := w.needsSidecar_of_hasAgent ns agent
  unfold evaluate
  split
  · rfl
  · simp [satisfied, unmarked]

/-- An injected agent that is not asked for is cleaned away. -/
theorem evaluate_of_optedOut (previous : String) (agent : w.hasAgent = true)
    (backend : w.isBackendComponent = false) (controlled : w.isControlled = false)
    (bound : w.boundTo? = some previous) (declined : w.isOptedIn ns = false) :
    evaluate config ns instances w = (.cleaned previous, w.clean previous) := by
  have satisfied := w.needsSidecar_of_hasAgent ns agent
  simp [evaluate, backend, controlled, satisfied, bound, agent, declined]

/-- An agent that is asked for stays. -/
theorem hasAgent_evaluate (agent : w.hasAgent = true) (opted : w.isOptedIn ns = true) :
    (evaluate config ns instances w).2.hasAgent = true := by
  apply evaluate_cases (motive := fun later => later.hasAgent = true)
  · exact agent
  · exact fun i => config.hasAgent_inject i w
  · intro previous declined
    rw [opted] at declined
    cases declined

end WithAgent

/-- An evaluation takes the agent of a workload away exactly if the workload is neither a component
of the backend nor a pod that a controller made, is marked as bound, and asks for no sidecar; which
instances there are does not matter.  An agent without a marker was added by hand, and its workload
is left as it is. -/
theorem sidecar_removed_iff (config : InjectorConfig) (ns : Namespace) (w : Workload)
    (agent : w.hasAgent = true) :
    (∀ instances, (evaluate config ns instances w).2.hasAgent = false ↔
      w.isBackendComponent = false ∧ w.isControlled = false ∧ (∃ marker, w.boundTo? = some marker) ∧
        w.isOptedIn ns = false) ∧
      (w.boundTo? = none → ∀ instances, evaluate config ns instances w = (.noOp, w)) := by
  refine ⟨fun instances => ⟨?_, ?_⟩, ?_⟩
  · intro removed
    have changed : (evaluate config ns instances w).2 ≠ w := by
      intro same
      rw [same, agent] at removed
      cases removed
    have own : (w.isBackendComponent || w.isControlled) = false := by
      apply Bool.eq_false_iff.2
      intro foreign
      exact changed (congrArg Prod.snd (evaluate_of_foreign config ns instances w foreign))
    obtain ⟨backend, controlled⟩ := Bool.or_eq_false_iff.1 own
    refine ⟨backend, controlled, ?_, ?_⟩
    · apply Option.ne_none_iff_exists'.1
      intro unmarked
      exact changed (congrArg Prod.snd (evaluate_of_manual config ns instances w agent unmarked))
    · apply Bool.eq_false_iff.2
      intro opted
      rw [hasAgent_evaluate config ns instances w agent opted] at removed
      cases removed
  · rintro ⟨backend, controlled, ⟨previous, bound⟩, declined⟩
    rw [evaluate_of_optedOut config ns instances w previous agent backend controlled bound declined]
    exact w.hasAgent_clean previous
  · exact fun unmarked instances => evaluate_of_manual config ns instances w agent unmarked

/-- With no instance left, the sidecar of a bound workload stays while its namespace asks for one,
and goes when it does not. -/
theorem sidecar_removed_iff_bound :
    let first := Sample.binding {} (Sample.instanceAt "tracing" "prod")
    let w := first.apply (Sample.deploymentWith [])
    w.hasAgent = true ∧ (evaluate {} (Sample.asking "true") [] w).2.hasAgent = true ∧
      (evaluate {} {} [] w).2.hasAgent = false := by
  intro first w
  have agent : w.hasAgent = true := by decide
  have asked := (sidecar_removed_iff {} (Sample.asking "true") w agent).1 []
  have unasked := (sidecar_removed_iff {} {} w agent).1 []
  refine ⟨agent, ?_, ?_⟩
  · apply Bool.ne_false_iff.1
    intro removed
    have declined := (asked.1 removed).2.2.2
    have opted : w.isOptedIn (Sample.asking "true") = true := by decide
    rw [opted] at declined
    cases declined
  · exact unasked.2 ⟨by decide, by decide, ⟨"prod", by decide⟩, by decide⟩

/-! ### Runs -/

/-- An evaluation changes nothing about what the workload asks for. -/
theorem Occasion.optIn?_apply (o : Occasion) (w : Workload)
    (leaves : w.kind = .pod → o.config.LeavesOptIn) : (o.apply w).optIn? = w.optIn? := by
  refine o.cases w (motive := fun _ later => later.optIn? = w.optIn?) rfl ?_ ?_
  · intro i _ _
    exact o.config.optIn?_inject i w leaves
  · intro previous _
    exact w.optIn?_clean previous

theorem Occasion.isOptedIn_apply (o : Occasion) (w : Workload) (ns : Namespace)
    (leaves : w.kind = .pod → o.config.LeavesOptIn) :
    (o.apply w).isOptedIn ns = w.isOptedIn ns :=
  isOptedIn_congr w _ ns (o.optIn?_apply w leaves)

theorem Occasion.kind_apply (o : Occasion) (w : Workload) : (o.apply w).kind = w.kind :=
  (identity_evaluate o.config o.ns o.instances w).1

/-- As long as a sidecar is asked for, an agent that is there stays, whatever becomes of the
instances. -/
theorem Workload.hasAgent_after (w : Workload) (run : List Occasion) (agent : w.hasAgent = true)
    (asked : ∀ o ∈ run, w.isOptedIn o.ns = true)
    (leaves : w.kind = .pod → ∀ o ∈ run, o.config.LeavesOptIn) :
    (w.after run).hasAgent = true := by
  have kept := after_induction (P := fun later => later.hasAgent = true ∧ later.kind = w.kind ∧
    ∀ ns, later.isOptedIn ns = w.isOptedIn ns) run w ⟨agent, rfl, fun _ => rfl⟩
  refine (kept ?_).1
  rintro o member later ⟨still_there, kind, asks⟩
  have opted : later.isOptedIn o.ns = true := by rw [asks, asked o member]
  refine ⟨hasAgent_evaluate o.config o.ns o.instances later still_there opted, ?_, ?_⟩
  · rw [o.kind_apply, kind]
  · intro ns
    rw [o.isOptedIn_apply later ns fun pod => leaves (kind ▸ pod) o member, asks]

end TracingSidecar
