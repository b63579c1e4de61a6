import TracingSidecar.Proofs.Reconcile.Accounting
import TracingSidecar.Proofs.Reconcile.Visits

/-!
# The writes of a pass for an instance

A pass for an instance sends the writes that the store calls for before it begins: for each affected
namespace that can be read, those that the evaluations of its workloads call for.  Failures only
take some of them away (`reconcileInstance_sends`).

The visits of a pass change the store for each other, but not where it matters: a visit of one
namespace leaves what a visit of another one reads (`Store.SameIn`), and of the lists of its own
namespace each is read before anything in it is written.
-/

namespace TracingSidecar

/-! ### Writes that are called for -/

/-- The writes that the evaluations of some workloads call for.  A workload without a name cannot be
written. -/
def writesFor (config : InjectorConfig) (ns : Namespace) (instances : List TracingInstance)
    (workloads : List Workload) : List Request :=
  (workloads.filter (·.anyName ≠ "")).filterMap (write? config ns instances)

/-- A part of a pass sends the writes that are called for, or some of them if there are failures. -/
structure Sends (faults : Faults) (expected : List Request) (seen : List Exchange) : Prop where
  sublist : (writesIn seen).Sublist expected
  complete : faults = noFaults → writesIn seen = expected

namespace Sends

variable {faults : Faults}

theorem of_eq {expected : List Request} {seen : List Exchange}
    (same : writesIn seen = expected) : Sends faults expected seen :=
  ⟨same ▸ .refl _, fun _ => same⟩

/-- A part that only reads. -/
theorem of_reads {seen : List Exchange} (reads : ∀ e ∈ seen, e.request.method ≠ "PUT") :
    Sends faults [] seen :=
  .of_eq (writesIn_eq_nil seen reads)

/-- A part that was kept from going on by a failure. -/
theorem of_failure (expected : List Request) {seen : List Exchange}
    (reads : ∀ e ∈ seen, e.request.method ≠ "PUT") (failed : faults ≠ noFaults) :
    Sends faults expected seen := by
  refine ⟨?_, fun none_fails => absurd none_fails failed⟩
  rw [writesIn_eq_nil seen reads]
  exact List.nil_sublist _

theorem append {first_expected second_expected : List Request}
    {first_seen second_seen : List Exchange} (first : Sends faults first_expected first_seen)
    (second : Sends faults second_expected second_seen) :
    Sends faults (first_expected ++ second_expected) (first_seen ++ second_seen) := by
  have writes : writesIn (first_seen ++ second_seen) =
      writesIn first_seen ++ writesIn second_seen := by
    simp only [writesIn, List.map_append, List.filter_append]
  constructor
  · rw [writes]
    exact first.sublist.append second.sublist
  · intro none_fails
    rw [writes, first.complete none_fails, second.complete none_fails]

theorem cons_read {expected : List Request} {e : Exchange} {seen : List Exchange}
    (reads : e.request.method ≠ "PUT") (rest : Sends faults expected seen) :
    Sends faults expected (e :: seen) := by
  have read : Sends faults [] [e] := .of_reads (by simpa using reads)
  exact read.append rest

end Sends

/-! ### Passes over a namespace -/

section Pass

variable (config : InjectorConfig) (ns : Namespace) (instances : List TracingInstance)
  (faults : Faults)

theorem passWorkload_sends (session : Session) (w : Workload) :
    Sends faults (writesFor config ns instances [w])
      ((passWorkload config ns instances w).exchanges (Session.handle faults) session) := by
  by_cases named : w.anyName = ""
  · have nothing : (passWorkload config ns instances w).exchanges (Session.handle faults) session =
        [] := by
      have unnamed : (evaluate config ns instances w).2.anyName = "" :=
        (identity_evaluate config ns instances w).2.trans named
      unfold passWorkload
      split
      next evaluation evaluated result =>
        rw [result] at unnamed
        split
        · rw [persist, Client.sendNamed, if_pos unnamed]
          rfl
        · rfl
    refine .of_eq ?_
    rw [nothing, writesFor, List.filter_cons_of_neg (by simpa using named)]
    rfl
  · refine .of_eq ?_
    rw [(passWorkload_accounts config ns instances _ session w named).writes, writesFor,
      List.filter_cons_of_pos (by simpa using named), List.filter_nil]

theorem passWorkloads_sends (session : Session) (workloads : List Workload) :
    Sends faults (writesFor config ns instances workloads)
      ((passWorkloads config ns instances workloads).exchanges (Session.handle faults)
        session) := by
  induction workloads generalizing session with
  | nil => exact .of_eq rfl
  | cons w rest ih =>
    have divided : writesFor config ns instances (w :: rest) =
        writesFor config ns instances [w] ++ writesFor config ns instances rest := by
      simp only [writesFor, ← List.filterMap_append, ← List.filter_append, List.singleton_append]
    rw [divided, passWorkloads, Client.exchanges_andThen, Client.exchanges_andThen,
      Client.exchanges_pure, List.append_nil]
    exact (passWorkload_sends config ns instances faults session w).append (ih _)

/-- If the list of a kind is answered, it is that of the store. -/
theorem passKind_sends (session : Session) (kind : WorkloadKind) :
    Sends faults
      (writesFor config ns instances (session.store.listWorkloads kind (some ns.anyName)))
      ((passKind config ns instances kind).exchanges (Session.handle faults) session) := by
  have reads : (Request.listWorkloads kind (some ns.anyName)).method ≠ "PUT" := by
    simp [Request.method]
  rw [passKind, Client.exchanges_andThen, Client.run_send, Client.exchanges_send]
  cases answer : (Session.handle faults (.listWorkloads kind (some ns.anyName)) session).1 with
  | error error =>
    refine .of_failure _ (by simpa using reads) ?_
    rintro rfl
    cases answer
  | ok found =>
    have listed := Session.answer_of_handle faults session _ found answer
    cases listed
    exact (passWorkloads_sends config ns instances faults _ _).cons_read reads

/-- Each kind is listed as it was before the first of them. -/
theorem passOver_sends (contents : WorkloadKind → List Workload) (kinds : List WorkloadKind)
    (distinct : kinds.Nodup) (session : Session)
    (same : ∀ kind ∈ kinds,
      session.store.listWorkloads kind (some ns.anyName) = contents kind) :
    Sends faults (kinds.flatMap fun kind => writesFor config ns instances (contents kind))
      ((passOver config ns instances kinds).exchanges (Session.handle faults) session) := by
  induction kinds generalizing session with
  | nil => exact .of_eq rfl
  | cons kind rest ih =>
    obtain ⟨fresh, rest_distinct⟩ := List.nodup_cons.1 distinct
    have first := passKind_sends config ns instances faults session kind
    rw [same kind List.mem_cons_self] at first
    rw [List.flatMap_cons, passOver, Client.exchanges_andThen, Client.exchanges_andThen,
      Client.exchanges_pure, List.append_nil]
    refine first.append (ih rest_distinct _ ?_)
    intro later listed
    rw [listWorkloads_passKind config ns instances faults kind later
      (fun again => fresh (again ▸ listed))]
    exact same later (List.mem_cons_of_mem _ listed)

end Pass

namespace Store

variable (context : PassContext) (store : Store)

/-- The writes that a pass over a namespace calls for. -/
def passWrites (ns : Namespace) : List Request :=
  passKinds.flatMap fun kind =>
    writesFor context.config ns (store.candidates context.watched)
      (store.listWorkloads kind (some ns.anyName))

/-- The namespace of a name. -/
def namespace? (name : String) : Option Namespace :=
  store.namespaces.find? fun ns => ns.anyName = name

/-- The writes that a visit of a namespace calls for.  Without a name it cannot be read, and neither
can one that there is not. -/
def visitWrites (name : String) : List Request :=
  if name = "" then [] else (store.namespace? name).elim [] (store.passWrites context)

theorem answer_getNamespace (name : String) :
    (store.answer (.getNamespace name)).1 =
      (store.namespace? name).elim (.error .notFound) .ok := by
  simp only [answer, namespace?]
  cases store.namespaces.find? fun ns => ns.anyName = name <;> rfl

variable {store} in
theorem anyName_of_namespace? {name : String} {ns : Namespace}
    (known : store.namespace? name = some ns) : ns.anyName = name := by
  simpa using List.find?_some known

end Store

theorem reconcileNamespace_sends (context : PassContext) (faults : Faults) (session : Session)
    (ns : Namespace) :
    Sends faults (session.store.passWrites context ns)
      ((reconcileNamespace context ns).exchanges (Session.handle faults) session) := by
  have reads := listInstances_reads faults session context.watched
  have lists : ∀ e ∈ (listInstances context.watched).exchanges (Session.handle faults) session,
      e.request.method ≠ "PUT" := by
    intro e member
    have asked := (listInstances_asksOnly context.watched).of_mem_exchanges _ session e member
    generalize e.request = request at asked
    cases asked
    simp [Request.method]
  rcases reconcileNamespace_outcome (Session.handle faults) session context ns with
    ⟨error, stopped, seen, -⟩ | ⟨instances, listed, seen, -⟩
  · rw [seen]
    refine .of_failure _ lists ?_
    intro none_fails
    have complete := reads.complete none_fails
    rw [stopped] at complete
    cases complete
  · have goes_over := passOver_sends context.config ns instances faults
      (fun kind => session.store.listWorkloads kind (some ns.anyName)) passKinds (by decide)
      ((listInstances context.watched).run (Session.handle faults) session).2
      (fun kind _ => by rw [reads.onlyRead.store])
    rw [reads.answer instances listed] at goes_over seen
    rw [seen]
    exact (Sends.of_reads lists).append goes_over

/-! ### Visits of several namespaces -/

namespace Store

/-- Two stores are the same for a visit of a namespace. -/
structure SameIn (name : String) (before after : Store) : Prop where
  instances : after.instances = before.instances
  namespaces : after.namespaces = before.namespaces
  workloads : ∀ kind, after.listWorkloads kind (some name) = before.listWorkloads kind (some name)

variable {name : String} {before after : Store}

theorem SameIn.refl (name : String) (store : Store) : store.SameIn name store :=
  ⟨rfl, rfl, fun _ => rfl⟩

theorem SameIn.trans {middle : Store} (earlier : before.SameIn name middle)
    (later : middle.SameIn name after) : before.SameIn name after where
  instances := later.instances.trans earlier.instances
  namespaces := later.namespaces.trans earlier.namespaces
  workloads := fun kind => (later.workloads kind).trans (earlier.workloads kind)

/-- Such stores call for the same writes. -/
theorem SameIn.visitWrites (same : before.SameIn name after) (context : PassContext) :
    after.visitWrites context name = before.visitWrites context name := by
  have candidates : after.candidates context.watched = before.candidates context.watched := by
    simp only [Store.candidates, Store.listInstances, same.instances]
  have known : after.namespace? name = before.namespace? name := by
    rw [namespace?, same.namespaces, namespace?]
  unfold Store.visitWrites
  rw [known]
  cases found : before.namespace? name with
  | none => rfl
  | some ns =>
    have here := anyName_of_namespace? found
    simp only [Option.elim, passWrites, candidates, here, same.workloads]

end Store

/-- What is asked for in a visit of one namespace makes no difference to a visit of another one. -/
theorem sameIn_handle (faults : Faults) (session : Session) (name other : String)
    (apart : other ≠ name) (request : Request) (of_visit : request.IsOfVisit other) :
    session.store.SameIn name (Session.handle faults request session).2.store := by
  by_cases writes : request.method = "PUT"
  · obtain ⟨w⟩ := of_visit.writesTo writes
    rcases Session.store_handle_replaceWorkload faults session other w.anyName w with
      ⟨error, -, same⟩ | ⟨kept, -, written⟩
    · rw [same]
      exact .refl name _
    · rw [written]
      exact ⟨rfl, rfl, fun kind =>
        session.store.listWorkloads_put_of_ne ⟨other, w⟩ kind name (Or.inr apart)⟩
  · rw [Session.handle_of_ne_put faults session request writes]
    exact .refl name _

section Visits

variable (context : PassContext) (faults : Faults)

theorem sameIn_visit (session : Session) (name other : String) (apart : other ≠ name) :
    session.store.SameIn name
      ((visit context other).run (Session.handle faults) session).2.store := by
  have completed := visit_completed context faults session other
  exact (visit context other).run_keeps (Session.handle faults) session
    (fun later => session.store.SameIn name later.store) (.refl name _) fun e member later so_far =>
      so_far.trans (sameIn_handle faults later name other apart e.request
        (completed.isOfVisit e member))

/-- A visit reads the namespace as the store has it. -/
theorem visit_sends (session : Session) (name : String) :
    Sends faults (session.store.visitWrites context name)
      ((visit context name).exchanges (Session.handle faults) session) := by
  have reads : (Request.getNamespace name).method ≠ "PUT" := by simp [Request.method]
  unfold visit
  by_cases named : name = ""
  · rw [Client.sendNamed, if_pos named, Store.visitWrites, if_pos named]
    exact .of_eq rfl
  · rw [Client.exchanges_andThen, Client.exchanges_sendNamed _ _ _ _ named,
      Client.run_sendNamed _ _ _ _ named, Store.visitWrites, if_neg named]
    cases answer : (Session.handle faults (.getNamespace name) session).1 with
    | error error =>
      cases found : session.store.namespace? name with
      | none => exact .of_reads (by simpa using reads)
      | some ns =>
        refine .of_failure _ (by simpa using reads) ?_
        rintro rfl
        have answered := session.store.answer_getNamespace name
        rw [found] at answered
        cases answer.symm.trans answered
    | ok ns =>
      have answered := Session.answer_of_handle faults session (.getNamespace name) ns answer
      rw [Store.answer_getNamespace] at answered
      have known : session.store.namespace? name = some ns := by
        cases found : session.store.namespace? name <;> rw [found] at answered <;> cases answered
        rfl
      have noted := Session.handle_of_ne_put faults session (.getNamespace name) reads
      have passes := reconcileNamespace_sends context faults
        (Session.handle faults (.getNamespace name) session).2 ns
      rw [noted] at passes ⊢
      dsimp only
      rw [Client.exchanges_andThen, Client.exchanges_pure, List.append_nil, known]
      exact passes.cons_read reads

/-- By induction over the names: each visit finds its own namespace as it was before the first of
them. -/
theorem visitAll_sends (store : Store) (names : List String) (distinct : names.Nodup)
    (session : Session) (same : ∀ name ∈ names, store.SameIn name session.store) :
    Sends faults (names.flatMap (store.visitWrites context))
      ((visitAll context names).exchanges (Session.handle faults) session) := by
  induction names generalizing session with
  | nil => exact .of_eq rfl
  | cons name rest ih =>
    obtain ⟨fresh, rest_distinct⟩ := List.nodup_cons.1 distinct
    have first := visit_sends context faults session name
    rw [(same name List.mem_cons_self).visitWrites] at first
    rw [List.flatMap_cons, visitAll, Client.exchanges_andThen, Client.exchanges_andThen,
      Client.exchanges_pure, List.append_nil]
    refine first.append (ih rest_distinct _ ?_)
    intro later listed
    have apart : name ≠ later := fun again => fresh (again ▸ listed)
    exact (same later (List.mem_cons_of_mem _ listed)).trans
      (sameIn_visit context faults session later name apart)

/-- A pass for an instance sends the writes that the store calls for in the affected namespaces, in
their order; failures take some of them away and add none. -/
theorem reconcileInstance_sends (i : TracingInstance) (session : Session) :
    Sends faults
      ((session.store.affected i.anyName).flatMap (session.store.visitWrites context))
      ((reconcileInstance context i).exchanges (Session.handle faults) session) := by
  have reads := findAffected_reads faults session i.anyName
  have lists : ∀ e ∈ (findAffected i.anyName).exchanges (Session.handle faults) session,
      e.request.method ≠ "PUT" := fun e member =>
    ((findAffected_asksOnly i.anyName).of_mem_exchanges _ _ e member).method
  unfold reconcileInstance
  rw [Client.exchanges_andThen]
  cases answer : ((findAffected i.anyName).run (Session.handle faults) session).1 with
  | error error =>
    refine .of_failure _ (by simpa using lists) ?_
    intro none_fails
    have complete := reads.complete none_fails
    rw [answer] at complete
    cases complete
  | ok names =>
    have known : names = session.store.affected i.anyName := reads.answer names answer
    have distinct : names.Nodup := known ▸ SortedMap.nodup_keys _
    have visits := visitAll_sends context faults session.store names distinct
      ((findAffected i.anyName).run (Session.handle faults) session).2
      fun name _ => reads.onlyRead.store ▸ .refl name _
    rw [← known]
    dsimp only
    rw [Client.exchanges_andThen]
    split <;> rw [Client.exchanges_pure, List.append_nil] <;>
      exact (Sends.of_reads lists).append visits

end Visits

end TracingSidecar
