import TracingSidecar.Config.Operator
import TracingSidecar.Proofs.Reconcile.Convergence
import TracingSidecar.Proofs.Reconcile.Requests

/-!
# The instances of the watched namespaces

The instances that workloads may be bound to are listed one watched namespace after the other.  No
instance is missed and none is listed that is not due, but a namespace that is watched twice is also
listed twice: an instance comes as often as its namespace is watched (`count_candidates`).  So each
one comes once exactly if no namespace with a due instance is repeated (`listInstances_once_iff`).
-/

namespace TracingSidecar

namespace Store

variable (store : Store) (watched : List String)

/-- The instances that are to be listed: those that are not on their way out and live in a watched
namespace, or anywhere if none is named. -/
def due : List TracingInstance :=
  store.instances.filter fun i => !i.metadata.isTerminating &&
    (watched.isEmpty || watched.any fun name => i.namespace? = some name)

theorem mem_due (i : TracingInstance) :
    i ∈ store.due watched ↔ i ∈ store.instances ∧ i.metadata.isTerminating = false ∧
      (watched = [] ∨ ∃ name ∈ watched, i.namespace? = some name) := by
  simp [due]

theorem mem_candidates (i : TracingInstance) :
    i ∈ store.candidates watched ↔ i ∈ store.due watched := by
  rw [mem_due]
  unfold candidates listInstances
  cases watched with
  | nil => simp
  | cons name rest => simp; tauto

/-- Where all namespaces are watched, the instances come as they are. -/
theorem candidates_nil : store.candidates [] = store.due [] := by
  simp [candidates, due, listInstances]

theorem count_listInstances (i : TracingInstance) (home name : String)
    (lives : i.namespace? = some home) :
    (store.listInstances (some name)).count i =
      if name = home then store.instances.count i else 0 := by
  unfold listInstances
  split
  next here =>
    rw [List.count_filter (by simp [lives, here])]
  next elsewhere =>
    apply List.count_eq_zero_of_not_mem
    intro member
    have listed := (List.mem_filter.1 member).2
    simp [lives] at listed
    exact elsewhere listed.symm

/-- Each time a namespace is watched, its instances are listed once more. -/
theorem count_watched (i : TracingInstance) (home : String) (lives : i.namespace? = some home) :
    (watched.flatMap fun name => store.listInstances (some name)).count i =
      watched.count home * store.instances.count i := by
  induction watched with
  | nil => simp
  | cons name rest ih =>
    rw [List.flatMap_cons, List.count_append, ih, store.count_listInstances i home name lives,
      List.count_cons]
    by_cases here : name = home
    · simp [here, Nat.add_mul, Nat.add_comm]
    · simp [here]

/-- An instance comes as often as its namespace is watched. -/
theorem count_candidates (some_watched : watched ≠ []) (i : TracingInstance) (home : String)
    (lives : i.namespace? = some home) (stays : i.metadata.isTerminating = false) :
    (store.candidates watched).count i = watched.count home * (store.due watched).count i := by
  have listed := store.count_watched watched i home lives
  unfold candidates
  rw [List.count_filter (by simp [stays]), if_neg (by simpa using some_watched), listed]
  by_cases here : home ∈ watched
  · unfold due
    rw [List.count_filter]
    simp [stays, lives, here]
  · simp [List.count_eq_zero_of_not_mem here]

/-- Each due instance comes once exactly if its namespace is not watched twice. -/
theorem candidates_perm_due_iff :
    (store.candidates watched).Perm (store.due watched) ↔
      ∀ i ∈ store.due watched, ∀ name, i.namespace? = some name → watched.count name ≤ 1 := by
  by_cases none_watched : watched = []
  · subst none_watched
    simp [candidates_nil]
  rw [List.perm_iff_count]
  constructor
  · intro same i is_due name lives
    have stays := ((store.mem_due watched i).1 is_due).2.1
    have counted := store.count_candidates watched none_watched i name lives stays
    have positive := List.count_pos_iff.2 is_due
    rw [same i] at counted
    by_contra repeated
    have : 2 * (store.due watched).count i ≤ watched.count name * (store.due watched).count i :=
      Nat.mul_le_mul_right _ (by omega)
    omega
  · intro once i
    by_cases is_due : i ∈ store.due watched
    · obtain ⟨-, stays, somewhere⟩ := (store.mem_due watched i).1 is_due
      obtain ⟨name, member, lives⟩ := somewhere.resolve_left none_watched
      have exactly_once : watched.count name = 1 :=
        Nat.le_antisymm (once i is_due name lives) (List.count_pos_iff.2 member)
      rw [store.count_candidates watched none_watched i name lives stays, exactly_once,
        Nat.one_mul]
    · have not_listed : i ∉ store.candidates watched := mt (store.mem_candidates watched i).1 is_due
      rw [List.count_eq_zero_of_not_mem is_due, List.count_eq_zero_of_not_mem not_listed]

end Store

/-- The instances are listed as a whole or not at all.  If one of the lists fails, so does the
whole, with its error.  Otherwise all due instances are found and no others; and each of them is
found once exactly if no namespace of a due instance is watched twice. -/
theorem listInstances_once_iff (text : String) (faults : Faults) (session : Session) :
    let watched := OperatorConfig.parseNamespaces text
    let seen := (listInstances watched).exchanges (Session.handle faults) session
    let result := ((listInstances watched).run (Session.handle faults) session).1
    let due := session.store.due watched
    (∀ e ∈ seen, ∀ error, e.error? = some error → result = .error error) ∧
    ((∀ e ∈ seen, e.error? = none) → ∃ found, result = .ok found ∧
      (∀ i, i ∈ found ↔ i ∈ due) ∧
      (found.Perm due ↔
        ∀ i ∈ due, ∀ name, i.namespace? = some name → watched.count name ≤ 1)) := by
  intro watched seen result due
  have gives_up := listInstances_givesUp watched
  constructor
  · intro e member error failed
    exact gives_up.eq_error _ _ e member error failed
  · intro answered
    obtain ⟨found, success⟩ := gives_up.eq_ok (Session.handle faults) session answered
    have known : found = session.store.candidates watched :=
      (listInstances_reads faults session watched).answer found success
    refine ⟨found, success, ?_, ?_⟩
    · intro i
      rw [known]
      exact session.store.mem_candidates watched i
    · rw [known]
      exact session.store.candidates_perm_due_iff watched

/-- Blanks and empty entries are no repetition: the sample instance is listed once. -/
theorem listInstances_once_iff_tracing :
    let text := " tracing, ,store,"
    let watched := OperatorConfig.parseNamespaces text
    let session : Session := { store := Sample.store }
    watched = ["tracing", "store"] ∧
      ∃ found, ((listInstances watched).run (Session.handle noFaults) session).1 = .ok found ∧
        found.Perm (session.store.due watched) := by
  intro text watched session
  have parsed : watched = ["tracing", "store"] := by decide +kernel
  have answered : ∀ e ∈ (listInstances watched).exchanges (Session.handle noFaults) session,
      e.error? = none := by
    rw [parsed]
    decide +kernel
  have once : ∀ i ∈ session.store.due watched, ∀ name, i.namespace? = some name →
      watched.count name ≤ 1 := by
    rw [parsed]
    intro i _ name _
    exact List.nodup_iff_count_le_one.1 (by decide) name
  obtain ⟨found, success, -, perm_iff⟩ :=
    (listInstances_once_iff text noFaults session).2 answered
  exact ⟨parsed, found, success, perm_iff.2 once⟩

/-- The namespace of the sample instance is watched twice: the instance is listed twice, and is no
longer the only one that may be selected. -/
theorem listInstances_twice :
    let watched := OperatorConfig.parseNamespaces "tracing,tracing"
    let session : Session := { store := Sample.store }
    let prod := Sample.instanceAt "tracing" "prod"
    let ns : Namespace := ⟨{ name := some "store" }⟩
    session.store.due watched = [prod] ∧
      (∀ e ∈ (listInstances watched).exchanges (Session.handle noFaults) session,
        e.error? = none) ∧
      ((listInstances watched).run (Session.handle noFaults) session).1 = .ok [prod, prod] ∧
      ¬[prod, prod].Perm (session.store.due watched) ∧
      select? Sample.shop ns [prod] = some prod ∧ select? Sample.shop ns [prod, prod] = none := by
  decide +kernel

end TracingSidecar
