import TracingSidecar.Proofs.Reconcile.Pass

/-!
# Retried passes

A pass over a namespace may fail anywhere and leave some workloads evaluated and others not.  Every
pass leads on to the store that a complete pass would leave (`reconcileNamespace_leads`), and a pass
without failures arrives there, however many passes failed before (`afterPasses_arrives`).  From
there passes only read.
-/

namespace TracingSidecar

/-! ### The instances -/

/-- The instances that workloads may be bound to, as the store has them. -/
def Store.candidates (watched : List String) (store : Store) : List TracingInstance :=
  (if watched.isEmpty then store.listInstances none
    else watched.flatMap fun name => store.listInstances (some name)).filter fun i =>
      !i.metadata.isTerminating

theorem instancesOf_reads (faults : Faults) (session : Session) (names : List String) :
    session.Reads faults (names.flatMap fun name => session.store.listInstances (some name))
      ((instancesOf names).run (Session.handle faults) session) := by
  induction names generalizing session with
  | nil => exact Session.reads_pure faults session []
  | cons name rest ih =>
    have first := Session.reads_send faults session (.listInstances (some name)) _
      (by simp [Request.method]) rfl
    unfold instancesOf
    refine Session.reads_andThen ?_ first fun later same => ?_
    · exact fun _ => rfl
    have others := ih later
    rw [same] at others
    refine Session.reads_andThen ?_ others fun last _ => ?_
    · exact fun _ => rfl
    exact Session.reads_pure faults last _

theorem listInstances_reads (faults : Faults) (session : Session) (watched : List String) :
    session.Reads faults (session.store.candidates watched)
      ((listInstances watched).run (Session.handle faults) session) := by
  unfold listInstances Store.candidates
  split
  next =>
    have all_read := Session.reads_send faults session (.listInstances none) _
      (by simp [Request.method]) rfl
    refine Session.reads_andThen ?_ all_read fun later _ => ?_
    · exact fun _ => rfl
    exact Session.reads_pure faults later _
  next =>
    have watched_read := instancesOf_reads faults session watched
    refine Session.reads_andThen ?_ watched_read fun later _ => ?_
    · exact fun _ => rfl
    exact Session.reads_pure faults later _

/-! ### Whole passes -/

section WholePass

variable (context : PassContext) (ns : Namespace) (instances : List TracingInstance)
  (target : Store) (faults : Faults) (session : Session)

/-- Whatever fails, a pass leads on to the same store; if it succeeds, it leaves nothing to do; and
it succeeds if nothing fails. -/
theorem reconcileNamespace_leads
    (known : session.store.candidates context.watched = instances)
    (toward : Store.Toward context.config ns instances target session.store) :
    let result := (reconcileNamespace context ns).run (Session.handle faults) session
    Store.Toward context.config ns instances target result.2.store ∧
      (∀ report, result.1 = .ok report →
        result.2.store.Settled context.config ns instances) ∧
      (faults = noFaults → ∃ report, result.1 = .ok report) := by
  have listed := listInstances_reads faults session context.watched
  rw [known] at listed
  intro result
  unfold result
  rw [reconcileNamespace, Client.run_andThen]
  split
  next error failed =>
    refine ⟨?_, nofun, ?_⟩
    · rw [Client.run_pure, listed.onlyRead.store]
      exact toward
    · intro none_fails
      have success := listed.complete none_fails
      rw [failed] at success
      cases success
  next found success =>
    rw [listed.answer found success]
    rw [← listed.onlyRead.store] at toward
    have passed_over := passOver_passedOver context.config ns instances target faults passKinds
      (fun _ => id) _ toward
    rw [Client.run_andThen]
    split
    next failures =>
      refine ⟨passed_over.toward, nofun, ?_⟩
      intro none_fails
      rw [passed_over.complete none_fails] at failures
      exact absurd failures (Nat.lt_irrefl 0)
    next no_failure =>
      refine ⟨passed_over.toward, ?_, fun _ => ⟨_, rfl⟩⟩
      rintro report - s stored inside
      exact passed_over.covers (Nat.eq_zero_of_not_pos no_failure) s stored inside

/-- Where nothing is left to do, a pass only reads. -/
theorem reconcileNamespace_of_steady
    (known : session.store.candidates context.watched = instances)
    (steady : session.store.Settled context.config ns instances) :
    let result := (reconcileNamespace context ns).run (Session.handle faults) session
    session.OnlyRead result.2 ∧ ∀ report, result.1 = .ok report → report.persisted = 0 := by
  have listed := listInstances_reads faults session context.watched
  rw [known] at listed
  intro result
  unfold result
  rw [reconcileNamespace, Client.run_andThen]
  split
  next => exact ⟨listed.onlyRead, nofun⟩
  next found success =>
    rw [listed.answer found success]
    rw [← listed.onlyRead.store] at steady
    obtain ⟨read, none_stored⟩ := passOver_of_steady context.config ns instances faults passKinds
      (fun _ => id) _ steady
    rw [Client.run_andThen]
    split
    next => exact ⟨listed.onlyRead.trans read, nofun⟩
    next =>
      refine ⟨listed.onlyRead.trans read, ?_⟩
      rintro report reported
      cases reported
      exact none_stored

/-- Passes one after the other, each with failures of its own. -/
def afterPasses (attempts : List Faults) (session : Session) : Session :=
  attempts.foldl (fun session faults =>
    ((reconcileNamespace context ns).run (Session.handle faults) session).2) session

variable {context ns instances target} in
/-- A store on the way has the instances of the store it leads to. -/
theorem Store.Toward.known {store : Store}
    (toward : Store.Toward context.config ns instances target store)
    (known : target.candidates context.watched = instances) :
    store.candidates context.watched = instances := by
  rw [← known, ← toward.settles]
  rfl

/-- By induction over the passes, each of which leads on to the same store. -/
theorem afterPasses_leads (attempts : List Faults)
    (known : target.candidates context.watched = instances)
    (toward : Store.Toward context.config ns instances target session.store) :
    Store.Toward context.config ns instances target
      (afterPasses context ns attempts session).store := by
  induction attempts generalizing session with
  | nil => exact toward
  | cons faults rest ih =>
    have next_pass := reconcileNamespace_leads context ns instances target faults session
      (toward.known known) toward
    exact ih _ next_pass.1

/-- A pass in which nothing fails arrives. -/
theorem afterPasses_arrives (attempts : List Faults)
    (known : target.candidates context.watched = instances)
    (toward : Store.Toward context.config ns instances target session.store) :
    (afterPasses context ns (attempts ++ [noFaults]) session).store = target ∧
      target.Settled context.config ns instances := by
  have on_the_way := afterPasses_leads context ns instances target session attempts known toward
  obtain ⟨toward_last, succeeds, complete⟩ := reconcileNamespace_leads context ns instances target
    noFaults _ (on_the_way.known known) on_the_way
  obtain ⟨report, success⟩ := complete rfl
  have steady := succeeds report success
  have arrived := (Store.settle_eq_self context.config ns instances _ steady).symm.trans
    toward_last.settles
  rw [arrived] at steady
  rw [afterPasses, List.foldl_append]
  exact ⟨arrived, steady⟩

/-- Where nothing is left to do, further passes without failures leave the store. -/
theorem store_afterPasses_of_steady (repeats : Nat)
    (known : session.store.candidates context.watched = instances)
    (steady : session.store.Settled context.config ns instances) :
    (afterPasses context ns (List.replicate repeats noFaults) session).store = session.store := by
  induction repeats generalizing session with
  | zero => rfl
  | succ repeats ih =>
    obtain ⟨read, -⟩ := reconcileNamespace_of_steady context ns instances noFaults session known
      steady
    have same := read.store
    rw [← same] at known steady
    exact (ih _ known steady).trans same

end WholePass

/-- Retrying converges.  After any passes with any failures, one pass in which nothing fails leaves
what a single such pass would have left in the first place; and every further one succeeds, stores
nothing and only reads. -/
theorem passes_converge (context : PassContext) (ns : Namespace) (session : Session)
    (attempts : List Faults)
    (plain : ∀ s ∈ session.store.workloads, s.workload.PlainNames)
    (named : ∀ s ∈ session.store.workloads, s.workload.anyName ≠ "") :
    let retried := afterPasses context ns (attempts ++ [noFaults]) session
    retried.store = (afterPasses context ns [noFaults] session).store ∧
      ∀ repeats,
        let later := afterPasses context ns (List.replicate repeats noFaults) retried
        ∃ report sent,
          (reconcileNamespace context ns).run (Session.handle noFaults) later =
            (.ok report, { store := retried.store, sent := later.sent ++ sent }) ∧
          report.persisted = 0 ∧ ∀ request ∈ sent, request.method ≠ "PUT" := by
  intro retried
  let instances := session.store.candidates context.watched
  let target := session.store.settle context.config ns instances
  have known : target.candidates context.watched = instances := rfl
  have sound : session.store.Sound := fun s stored => ⟨plain s stored, named s stored⟩
  have toward : Store.Toward context.config ns instances target session.store := ⟨sound, rfl⟩
  have retried_toward : Store.Toward context.config ns instances target retried.store :=
    afterPasses_leads context ns instances target session _ known toward
  obtain ⟨arrival, steady⟩ := afterPasses_arrives context ns instances target session attempts known
    toward
  have arrived : retried.store = target := arrival
  -- A single pass from the start arrives at the same store: it is the case of no earlier passes.
  obtain ⟨at_once, -⟩ := afterPasses_arrives context ns instances target session [] known toward
  refine ⟨arrived.trans at_once.symm, ?_⟩
  intro repeats later
  rw [← arrived] at steady
  have same : later.store = retried.store := store_afterPasses_of_steady context ns instances
    retried repeats (retried_toward.known known) steady
  rw [← same] at steady retried_toward
  have later_known := retried_toward.known known
  obtain ⟨⟨sent, read, reads⟩, none_stored⟩ := reconcileNamespace_of_steady context ns instances
    noFaults later later_known steady
  obtain ⟨-, -, complete⟩ := reconcileNamespace_leads context ns instances target noFaults later
    later_known retried_toward
  obtain ⟨report, success⟩ := complete rfl
  refine ⟨report, sent, ?_, none_stored report success, reads⟩
  rw [← same]
  exact Prod.ext success read

/-- A store with the sample deployment and an instance. -/
def Sample.store : Store where
  instances := [instanceAt "tracing" "prod"]
  namespaces := [⟨{ name := some "store" }⟩]
  workloads := [⟨"store", shop⟩]
  distinct := by decide

/-- A pass whose write is refused leaves the sample as it is; the retry binds it to the instance. -/
theorem passes_converge_shop :
    let ns : Namespace := ⟨{ name := some "store" }⟩
    let refused : Faults := fun _ request =>
      if request.method = "PUT" then some (.transport "refused") else none
    let session : Session := { store := Sample.store }
    ((reconcileNamespace {} ns).run (Session.handle refused) session).1 =
        .error (.workloads "store" 1) ∧
      ((reconcileNamespace {} ns).run (Session.handle noFaults) session).1 = .ok ⟨1, 1, 0⟩ ∧
      let retried := afterPasses {} ns ([refused] ++ [noFaults]) session
      retried.store = (afterPasses {} ns [noFaults] session).store ∧
        ∀ repeats,
          let later := afterPasses {} ns (List.replicate repeats noFaults) retried
          ∃ report sent,
            (reconcileNamespace {} ns).run (Session.handle noFaults) later =
              (.ok report, { store := retried.store, sent := later.sent ++ sent }) ∧
            report.persisted = 0 ∧ ∀ request ∈ sent, request.method ≠ "PUT" := by
  intro ns refused session
  have plain : ∀ s ∈ session.store.workloads, s.workload.PlainNames := by
    intro s stored
    cases List.mem_singleton.1 stored
    exact Sample.plainNames_shop
  have named : ∀ s ∈ session.store.workloads, s.workload.anyName ≠ "" := by
    decide
  exact ⟨rfl, rfl, passes_converge {} ns session [refused] plain named⟩

end TracingSidecar
