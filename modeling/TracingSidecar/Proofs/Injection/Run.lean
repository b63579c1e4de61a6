import TracingSidecar.Proofs.Injection.FixedPoint

/-!
# Runs of evaluations

A workload is evaluated time and again: when it is admitted, when its namespace changes, when an
instance changes.  An occasion is what one evaluation is made with, and a run is a list of them.
Whatever an evaluation does is one of three things: it leaves the workload as it is, injects the
instance that it selects, or cleans the workload of the instance that it was bound to
(`Occasion.cases`).  What holds at first and survives every evaluation holds after every run
(`after_induction`).
-/

namespace TracingSidecar

/-- What an evaluation is made with. -/
structure Occasion where
  config : InjectorConfig := {}
  ns : Namespace := {}
  instances : List TracingInstance := []

namespace Occasion

variable (o : Occasion) (w : Workload)

/-- What the evaluation of a workload does. -/
def evaluation : Evaluation := (evaluate o.config o.ns o.instances w).1

/-- What the evaluation of a workload leaves. -/
def apply : Workload := (evaluate o.config o.ns o.instances w).2

/-- The instance that the evaluation injects into a workload. -/
def binds? : Option TracingInstance :=
  match o.evaluation w with
  | .injected _ | .updated _ => select? w o.ns o.instances
  | .noOp | .noTarget | .cleaned _ => none

/-- The binding that the evaluation ends: the marker that it finds and does not leave. -/
def ends? : Option String :=
  w.boundTo?.filter fun marker => (o.apply w).boundTo? ≠ some marker

/-- An evaluation leaves the workload, injects the instance selected for it or cleans it. -/
theorem cases {motive : Option TracingInstance → Workload → Prop} (kept : motive none w)
    (bound : ∀ i, w.isOptedIn o.ns = true → select? w o.ns o.instances = some i →
      motive (some i) (o.config.inject i w))
    (cleaned : ∀ previous, w.boundTo? = some previous → motive none (w.clean previous)) :
    motive (o.binds? w) (o.apply w) := by
  have outcome := evaluate_outcome o.config o.ns o.instances w
  unfold binds? evaluation apply
  generalize evaluate o.config o.ns o.instances w = once at outcome ⊢
  cases outcome with
  | kept evaluation unchanged => rcases unchanged with rfl | rfl <;> exact kept
  | bound evaluation i named opted selected =>
    have injected := bound i opted selected
    rcases named with rfl | rfl
    · rw [selected]
      exact injected
    · rw [selected]
      exact injected
  | cleaned previous opted unbound => exact cleaned previous unbound

/-- An instance that is bound was asked for and selected, and is injected. -/
theorem binds?_eq_some (i : TracingInstance) (binds : o.binds? w = some i) :
    w.isOptedIn o.ns = true ∧ select? w o.ns o.instances = some i ∧
      o.apply w = o.config.inject i w := by
  revert binds
  refine o.cases w (motive := fun bound later => bound = some i →
    w.isOptedIn o.ns = true ∧ select? w o.ns o.instances = some i ∧
      later = o.config.inject i w) ?_ ?_ ?_
  · intro none_bound
    cases none_bound
  · intro other opted selected same
    cases same
    exact ⟨opted, selected, rfl⟩
  · intro previous unbound none_bound
    cases none_bound

/-- A binding ends where its marker was and is no more. -/
theorem ends?_eq_some_iff (marker : String) :
    o.ends? w = some marker ↔
      w.boundTo? = some marker ∧ (o.apply w).boundTo? ≠ some marker := by
  simp only [ends?, Option.filter_eq_some_iff, decide_eq_true_eq]

end Occasion

namespace Workload

/-- The workload after it was evaluated on one occasion after the other. -/
def after (w : Workload) (run : List Occasion) : Workload := run.foldl (fun w o => o.apply w) w

@[simp] theorem after_cons (w : Workload) (o : Occasion) (run : List Occasion) :
    w.after (o :: run) = (o.apply w).after run := rfl

theorem after_append (w : Workload) (run more : List Occasion) :
    w.after (run ++ more) = (w.after run).after more := by
  simp only [after, List.foldl_append]

/-- What survives every evaluation of a run holds after it. -/
theorem after_induction {P : Workload → Prop} (run : List Occasion) (w : Workload) (start : P w)
    (step : ∀ o ∈ run, ∀ w, P w → P (o.apply w)) : P (w.after run) := by
  induction run generalizing w with
  | nil => exact start
  | cons o rest ih =>
    have first := step o List.mem_cons_self w start
    exact ih (o.apply w) first fun later member => step later (List.mem_cons_of_mem _ member)

end Workload

/-! ### Samples -/

/-- A namespace that asks for a sidecar. -/
def Sample.asking (value : String) : Namespace where
  metadata := { name := some "store", annotations := some (.ofList [(injectKey, value)]) }

/-- The occasion that an instance is there and the namespace asks for it. -/
def Sample.binding (config : InjectorConfig) (i : TracingInstance) : Occasion :=
  { config, ns := asking i.anyName, instances := [i] }

/-- A deployment that asks for nothing itself and has volumes of its own. -/
def Sample.deploymentWith (volumes : List Volume) : Workload where
  metadata := { name := some "shop", namespaceName := some "store" }
  body := .deployment (some
    { settings := {}
      template := { spec := some { containers := [{ name := "web" }], volumes := some volumes } } })

end TracingSidecar
