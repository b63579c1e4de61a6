import TracingSidecar.Proofs.Reconcile.Affected
import TracingSidecar.Proofs.Reconcile.Requests

/-!
# The visits of a pass for an instance

A pass for an instance looks for the affected namespaces first, and stops where one of the lists
that they are found in fails.  Then it visits each of them once: it reads the namespace and passes
over it, unless it cannot be read.  What goes wrong in a visit ends that visit at most, and is counted
as one failure (`reconcileInstance_visits`).
-/

namespace TracingSidecar

/-! ### Finding the namespaces -/

/-- One of the lists that the affected namespaces are found in. -/
inductive Request.FindsAffected : Request → Prop
  | workloads (kind : WorkloadKind) : FindsAffected (.listWorkloads kind none)
  | namespaces : FindsAffected .listNamespaces

theorem Request.FindsAffected.method {request : Request} (finds : request.FindsAffected) :
    request.method ≠ "PUT" := by
  cases finds <;> simp [Request.method]

theorem allWorkloads_asksOnly (kinds : List WorkloadKind) :
    (allWorkloads kinds).AsksOnly Request.FindsAffected := by
  induction kinds with
  | nil => exact Client.asksOnly_pure _
  | cons kind rest ih =>
    refine Client.asksOnly_andThen (Client.asksOnly_send (.workloads kind)) ?_
    rintro (error | found)
    · exact Client.asksOnly_pure _
    refine Client.asksOnly_andThen ih ?_
    rintro (error | more) <;> exact Client.asksOnly_pure _

theorem findAffected_asksOnly (instanceName : String) :
    (findAffected instanceName).AsksOnly Request.FindsAffected := by
  refine Client.asksOnly_andThen (allWorkloads_asksOnly passKinds) ?_
  rintro (error | workloads)
  · exact Client.asksOnly_pure _
  refine Client.asksOnly_andThen (Client.asksOnly_send .namespaces) ?_
  rintro (error | namespaces) <;> exact Client.asksOnly_pure _

theorem allWorkloads_givesUp (kinds : List WorkloadKind) : (allWorkloads kinds).GivesUp := by
  induction kinds with
  | nil => exact Client.givesUp_pure _
  | cons kind rest ih =>
    refine Client.givesUp_andThen (Client.givesUp_send _) (fun _ => rfl) fun found => ?_
    exact Client.givesUp_andThen ih (fun _ => rfl) fun more => Client.givesUp_pure _

/-- One failed list fails the whole. -/
theorem findAffected_givesUp (instanceName : String) : (findAffected instanceName).GivesUp := by
  refine Client.givesUp_andThen (allWorkloads_givesUp passKinds) (fun _ => rfl) fun workloads => ?_
  exact Client.givesUp_andThen (Client.givesUp_send _) (fun _ => rfl)
    fun namespaces => Client.givesUp_pure _

section Requests

variable {σ : Type} (handle : Client.Handler σ) (state : σ)

theorem requests_allWorkloads (kinds : List WorkloadKind) (found : List Workload)
    (success : ((allWorkloads kinds).run handle state).1 = .ok found) :
    ((allWorkloads kinds).exchanges handle state).map (·.request) =
      kinds.map (.listWorkloads · none) := by
  induction kinds generalizing state found with
  | nil => rfl
  | cons kind rest ih =>
    rw [allWorkloads, Client.run_andThen, Client.run_send] at success
    rw [allWorkloads, Client.exchanges_andThen, Client.run_send, Client.exchanges_send]
    cases answer : (handle (.listWorkloads kind none) state).1 with
    | error error =>
      rw [answer] at success
      cases success
    | ok listed =>
      rw [answer] at success
      dsimp only at success ⊢
      rw [Client.run_andThen] at success
      rw [Client.exchanges_andThen]
      cases others : ((allWorkloads rest).run handle (handle (.listWorkloads kind none) state).2).1
        with
      | error error =>
        rw [others] at success
        cases success
      | ok more => simp [ih _ more others]

/-- Where the affected namespaces are found, all lists were asked for. -/
theorem requests_findAffected (instanceName : String) (names : List String)
    (success : ((findAffected instanceName).run handle state).1 = .ok names) :
    ((findAffected instanceName).exchanges handle state).map (·.request) =
      passKinds.map (.listWorkloads · none) ++ [.listNamespaces] := by
  rw [findAffected, Client.run_andThen] at success
  rw [findAffected, Client.exchanges_andThen]
  cases workloads : ((allWorkloads passKinds).run handle state).1 with
  | error error =>
    rw [workloads] at success
    cases success
  | ok found =>
    rw [List.map_append, requests_allWorkloads handle state passKinds found workloads]
    dsimp only
    rw [Client.exchanges_andThen, Client.exchanges_send, Client.run_send]
    cases (handle .listNamespaces ((allWorkloads passKinds).run handle state).2).1 <;> rfl

end Requests

/-! ### Visits -/

/-- Whether a namespace is read. -/
def Request.readsNamespace : Request → Bool
  | .getNamespace _ => true
  | _ => false

/-- The namespaces that were asked for. -/
def readsIn (seen : List Exchange) : List Request :=
  (seen.map (·.request)).filter (·.readsNamespace)

theorem readsIn_append (first second : List Exchange) :
    readsIn (first ++ second) = readsIn first ++ readsIn second := by
  rw [readsIn, List.map_append, List.filter_append]
  rfl

theorem readsIn_eq_nil (seen : List Exchange)
    (others : ∀ e ∈ seen, e.request.readsNamespace = false) : readsIn seen = [] := by
  simpa [readsIn, List.filter_map] using others

theorem Request.IsOfPass.readsNamespace {name : String} {request : Request}
    (of_pass : request.IsOfPass name) : request.readsNamespace = false := by
  rcases of_pass with lists | concerns
  · cases lists
    rfl
  · cases concerns with
    | list kind => rfl
    | write _ writes =>
      cases writes
      rfl

/-- What was exchanged when a namespace was visited, and whether the visit succeeded. -/
structure Visit where
  name : String
  seen : List Exchange
  succeeded : Bool

namespace Visit

variable (context : PassContext) (faults : Faults)

/-- A visit that went its way to the end.  A namespace without a name cannot be asked for; one that
is answered is passed over, and the visit succeeds if the pass does. -/
inductive Completed : Visit → Prop
  | unnamed : Completed ⟨"", [], false⟩
  | unread (name : String) (named : name ≠ "") (error : ApiError) :
      Completed ⟨name, [⟨.getNamespace name, .error error⟩], false⟩
  | passed (ns : Namespace) (named : ns.anyName ≠ "") (start : Session) :
      Completed {
        name := ns.anyName
        seen := ⟨.getNamespace ns.anyName, .ok ns⟩ ::
          (reconcileNamespace context ns).exchanges (Session.handle faults) start
        succeeded :=
          ((reconcileNamespace context ns).run (Session.handle faults) start).1.isOk }

variable {context faults} {v : Visit}

theorem Completed.isOfVisit (completed : v.Completed context faults) :
    ∀ e ∈ v.seen, e.request.IsOfVisit v.name := by
  intro e member
  cases completed with
  | unnamed => cases member
  | unread name named error =>
    left
    rw [List.mem_singleton.1 member]
  | passed ns named start =>
    rcases List.mem_cons.1 member with rfl | later
    · exact Or.inl rfl
    · exact Or.inr ((reconcileNamespace_asksOnly context ns).of_mem_exchanges _ _ e later)

/-- A visit does not look for affected namespaces again. -/
theorem Completed.not_findsAffected (completed : v.Completed context faults) :
    ∀ e ∈ v.seen, ¬e.request.FindsAffected := by
  intro e member finds
  have of_visit := completed.isOfVisit e member
  generalize e.request = request at finds of_visit
  rcases of_visit with rfl | lists | concerns
  · cases finds
  · cases lists
    cases finds
  · cases concerns with
    | list kind => cases finds
    | write _ writes =>
      cases writes
      cases finds

/-- Where there is a name, a visit reads the namespace once. -/
theorem Completed.reads (completed : v.Completed context faults) :
    readsIn v.seen = ([v.name].filter (· ≠ "")).map .getNamespace := by
  cases completed with
  | unnamed => rfl
  | unread name named error =>
    rw [List.filter_cons_of_pos (by simpa using named)]
    rfl
  | passed ns named start =>
    have no_more := readsIn_eq_nil
      ((reconcileNamespace context ns).exchanges (Session.handle faults) start) fun e member =>
        ((reconcileNamespace_asksOnly context ns).of_mem_exchanges _ _ e member).readsNamespace
    rw [List.filter_cons_of_pos (by simpa using named), ← List.singleton_append, readsIn_append,
      no_more]
    rfl

end Visit

section Visits

variable (context : PassContext) (faults : Faults)

/-- A namespace is answered under its own name. -/
theorem Store.anyName_of_getNamespace (store : Store) (name : String) (ns : Namespace)
    (success : (store.answer (.getNamespace name)).1 = .ok ns) : ns.anyName = name := by
  simp only [answer] at success
  split at success
  next found known =>
    cases success
    simpa using List.find?_some known
  next => cases success

theorem visit_completed (session : Session) (name : String) :
    Visit.Completed context faults {
      name
      seen := (visit context name).exchanges (Session.handle faults) session
      succeeded := ((visit context name).run (Session.handle faults) session).1 } := by
  unfold visit
  by_cases named : name = ""
  · subst named
    exact .unnamed
  · rw [Client.exchanges_andThen, Client.run_andThen,
      Client.exchanges_sendNamed _ _ _ _ named, Client.run_sendNamed _ _ _ _ named]
    cases answer : (Session.handle faults (.getNamespace name) session).1 with
    | error error => exact .unread name named error
    | ok ns =>
      have same := session.store.anyName_of_getNamespace name ns
        (Session.answer_of_handle faults session (.getNamespace name) ns answer)
      have passed : Visit.Completed context faults _ :=
        .passed ns (same ▸ named) (Session.handle faults (.getNamespace name) session).2
      rw [same] at passed
      dsimp only
      rw [Client.exchanges_andThen, Client.exchanges_pure, List.append_nil, Client.run_andThen]
      exact passed

/-- By induction over the names: each of them gets its visit, whatever came of those before. -/
theorem visitAll_visits (session : Session) (names : List String) :
    ∃ visits : List Visit,
      (visitAll context names).exchanges (Session.handle faults) session =
        visits.flatMap (·.seen) ∧
      visits.map (·.name) = names ∧
      (∀ v ∈ visits, v.Completed context faults) ∧
      ((visitAll context names).run (Session.handle faults) session).1 =
        visits.countP (!·.succeeded) := by
  induction names generalizing session with
  | nil => exact ⟨[], rfl, rfl, nofun, rfl⟩
  | cons name rest ih =>
    have first := visit_completed context faults session name
    obtain ⟨visits, exchanged, named, completed, counted⟩ :=
      ih ((visit context name).run (Session.handle faults) session).2
    refine ⟨_ :: visits, ?_, ?_, List.forall_mem_cons.2 ⟨first, completed⟩, ?_⟩
    · rw [visitAll, Client.exchanges_andThen, Client.exchanges_andThen, Client.exchanges_pure,
        List.append_nil, exchanged]
      rfl
    · rw [List.map_cons, named]
    · rw [visitAll, Client.run_andThen, Client.run_andThen, Client.run_pure, counted,
        List.countP_cons, Nat.add_comm]
      cases ((visit context name).run (Session.handle faults) session).1 <;> rfl

theorem readsIn_visits (visits : List Visit) (completed : ∀ v ∈ visits, v.Completed context faults) :
    readsIn (visits.flatMap (·.seen)) =
      ((visits.map (·.name)).filter (· ≠ "")).map .getNamespace := by
  induction visits with
  | nil => rfl
  | cons v rest ih =>
    have others := ih fun other member => completed other (List.mem_cons_of_mem v member)
    rw [List.flatMap_cons, readsIn_append, (completed v List.mem_cons_self).reads, others,
      ← List.map_append, ← List.filter_append]
    rfl

/-! ### Whole passes -/

/-- The names of the namespaces that a change of an instance affects, as the store has them. -/
def Store.affected (store : Store) (instanceName : String) : List String :=
  affectedNamespaces instanceName (passKinds.flatMap fun kind => store.listWorkloads kind none)
    store.namespaces

/-- A pass for an instance ends where the affected namespaces are not found; otherwise it visits
them. -/
theorem reconcileInstance_outcome (i : TracingInstance) (session : Session) :
    let found := (findAffected i.anyName).exchanges (Session.handle faults) session
    let finding := ((findAffected i.anyName).run (Session.handle faults) session).1
    let seen := (reconcileInstance context i).exchanges (Session.handle faults) session
    let result := ((reconcileInstance context i).run (Session.handle faults) session).1
    let names := session.store.affected i.anyName
    (∃ error, finding = .error error ∧ seen = found ∧ result = .error (.api error)) ∨
      (finding = .ok names ∧ ∃ visits : List Visit,
        seen = found ++ visits.flatMap (·.seen) ∧
        visits.map (·.name) = names ∧
        (∀ v ∈ visits, v.Completed context faults) ∧
        let failed := visits.countP (!·.succeeded)
        result = if 0 < failed then .error (.namespaces i.anyName failed)
          else .ok names.length) := by
  have reads := findAffected_reads faults session i.anyName
  unfold reconcileInstance
  rw [Client.exchanges_andThen, Client.run_andThen]
  generalize (findAffected i.anyName).run (Session.handle faults) session = finding at reads ⊢
  obtain ⟨answer, later⟩ := finding
  cases answer with
  | error error => exact Or.inl ⟨error, rfl, List.append_nil _, rfl⟩
  | ok names =>
    have known : names = session.store.affected i.anyName := reads.answer names rfl
    obtain ⟨visits, exchanged, named, completed, counted⟩ :=
      visitAll_visits context faults later names
    refine Or.inr ⟨congrArg Except.ok known, visits, ?_, named.trans known, completed, ?_⟩
    · dsimp only
      rw [Client.exchanges_andThen, exchanged]
      split <;> rw [Client.exchanges_pure, List.append_nil]
    · dsimp only
      rw [Client.run_andThen, counted, ← known]
      split <;> rfl

/-- Without the affected namespaces, a pass for an instance ends before it writes. -/
theorem reconcileInstance_stops (i : TracingInstance) (session : Session) (e : Exchange)
    (member : e ∈ (reconcileInstance context i).exchanges (Session.handle faults) session)
    (finds : e.request.FindsAffected) (error : ApiError) (failed : e.error? = some error) :
    ((reconcileInstance context i).run (Session.handle faults) session).1 = .error (.api error) ∧
      writesIn ((reconcileInstance context i).exchanges (Session.handle faults) session) = [] := by
  have gives_up (member : e ∈ (findAffected i.anyName).exchanges (Session.handle faults) session) :=
    (findAffected_givesUp i.anyName).eq_error _ _ e member error failed
  rcases reconcileInstance_outcome context faults i session with
    ⟨other, stopped, seen, result⟩ | ⟨found, visits, seen, -, completed, -⟩
  · rw [seen] at member
    rw [gives_up member] at stopped
    cases stopped
    have no_writes := writesIn_eq_nil
      ((findAffected i.anyName).exchanges (Session.handle faults) session) fun e member =>
        ((findAffected_asksOnly i.anyName).of_mem_exchanges _ _ e member).method
    exact ⟨result, by rw [seen, no_writes]⟩
  · rw [seen] at member
    rcases List.mem_append.1 member with early | late
    · rw [gives_up early] at found
      cases found
    · obtain ⟨v, visited, exchanged⟩ := List.mem_flatMap.1 late
      exact absurd finds ((completed v visited).not_findsAffected e exchanged)

/-- With the affected namespaces, a pass for an instance goes through all visits. -/
theorem reconcileInstance_completes (i : TracingInstance) (session : Session)
    (complete : ∀ e ∈ (reconcileInstance context i).exchanges (Session.handle faults) session,
      e.request.FindsAffected → e.error? = none) :
    let names := session.store.affected i.anyName
    ∃ (lists : List Exchange) (visits : List Visit),
      (reconcileInstance context i).exchanges (Session.handle faults) session =
        lists ++ visits.flatMap (·.seen) ∧
      lists.map (·.request) = passKinds.map (.listWorkloads · none) ++ [.listNamespaces] ∧
      readsIn lists = [] ∧
      visits.map (·.name) = names ∧
      (∀ v ∈ visits, v.Completed context faults) ∧
      let failed := visits.countP (!·.succeeded)
      ((reconcileInstance context i).run (Session.handle faults) session).1 =
        if 0 < failed then .error (.namespaces i.anyName failed) else .ok names.length := by
  have asks := (findAffected_asksOnly i.anyName).of_mem_exchanges (Session.handle faults) session
  rcases reconcileInstance_outcome context faults i session with
    ⟨error, stopped, seen, -⟩ | ⟨found, visits, seen, named, completed, result⟩
  · obtain ⟨names, found⟩ := (findAffected_givesUp i.anyName).eq_ok _ _
      fun e member => complete e (seen ▸ member) (asks e member)
    rw [found] at stopped
    cases stopped
  · have lists := requests_findAffected (Session.handle faults) session i.anyName _ found
    have no_reads : readsIn ((findAffected i.anyName).exchanges (Session.handle faults) session) =
        [] := by
      rw [readsIn, lists]
      rfl
    exact ⟨_, visits, seen, lists, no_reads, named, completed, result⟩

/-- All writes of a pass for an instance are of affected namespaces. -/
theorem reconcileInstance_writesTo (i : TracingInstance) (session : Session) (request : Request)
    (sent : request ∈
      writesIn ((reconcileInstance context i).exchanges (Session.handle faults) session)) :
    ∃ name ∈ session.store.affected i.anyName, request.WritesTo name := by
  obtain ⟨⟨e, member, rfl⟩, writes⟩ := (mem_writesIn _ _).1 sent
  have not_found (member : e ∈ (findAffected i.anyName).exchanges (Session.handle faults) session) :
      False :=
    ((findAffected_asksOnly i.anyName).of_mem_exchanges _ _ e member).method writes
  rcases reconcileInstance_outcome context faults i session with
    ⟨error, -, seen, -⟩ | ⟨-, visits, seen, named, completed, -⟩
  · rw [seen] at member
    exact absurd member not_found
  · rw [seen] at member
    rcases List.mem_append.1 member with early | late
    · exact absurd early not_found
    · obtain ⟨v, visited, exchanged⟩ := List.mem_flatMap.1 late
      rw [← named]
      exact ⟨v.name, List.mem_map_of_mem visited,
        ((completed v visited).isOfVisit e exchanged).writesTo writes⟩

end Visits

/-- A pass for an instance finds the affected namespaces with four lists, and ends with the error of
the first one that fails.  Otherwise it visits each affected namespace once: it reads it, if it has a
name, and goes through one pass over it if it can be read, whatever came of the visits before.  It
fails if a visit did, and counts these; otherwise it counts the namespaces.  No workload of another
namespace is written. -/
theorem reconcileInstance_visits (context : PassContext) (i : TracingInstance) (faults : Faults)
    (session : Session) :
    let seen := (reconcileInstance context i).exchanges (Session.handle faults) session
    let result := ((reconcileInstance context i).run (Session.handle faults) session).1
    let names := session.store.affected i.anyName
    (∀ e ∈ seen, e.request.FindsAffected → ∀ error, e.error? = some error →
      result = .error (.api error) ∧ writesIn seen = []) ∧
    ((∀ e ∈ seen, e.request.FindsAffected → e.error? = none) →
      ∃ (lists : List Exchange) (visits : List Visit),
        seen = lists ++ visits.flatMap (·.seen) ∧
        lists.map (·.request) = passKinds.map (.listWorkloads · none) ++ [.listNamespaces] ∧
        visits.map (·.name) = names ∧ names.Nodup ∧
        (∀ v ∈ visits, v.Completed context faults) ∧
        readsIn seen = (names.filter (· ≠ "")).map .getNamespace ∧
        let failed := visits.countP (!·.succeeded)
        result = if 0 < failed then .error (.namespaces i.anyName failed)
          else .ok names.length) ∧
    ∀ request ∈ writesIn seen, ∃ name ∈ names, request.WritesTo name := by
  intro seen result names
  refine ⟨reconcileInstance_stops context faults i session, ?_,
    reconcileInstance_writesTo context faults i session⟩
  intro complete
  obtain ⟨lists, visits, exchanged, lists_requests, no_reads, named, completed, counted⟩ :=
    reconcileInstance_completes context faults i session complete
  have reads : readsIn seen = (names.filter (· ≠ "")).map .getNamespace := by
    unfold seen
    rw [exchanged, readsIn_append, no_reads, List.nil_append,
      readsIn_visits context faults visits completed, named]
  exact ⟨lists, visits, exchanged, lists_requests, named, SortedMap.nodup_keys _, completed, reads,
    counted⟩

/-- A daemon set that asks for any instance. -/
def Sample.stray : Workload where
  metadata :=
    { name := some "stray", namespaceName := some "gone"
      annotations := some (.ofList [(injectKey, "true")]) }
  body := .daemonSet none

/-- A store with two affected namespaces, one of which is not in it. -/
def Sample.strayStore : Store where
  instances := [instanceAt "tracing" "prod"]
  namespaces := [⟨{ name := some "store" }⟩]
  workloads := [⟨"store", shop⟩, ⟨"gone", stray⟩]
  distinct := by decide

/-- The visit of the missing namespace fails, and the other one is passed over all the same. -/
theorem reconcileInstance_visits_stray :
    let i := Sample.instanceAt "tracing" "prod"
    let session : Session := { store := Sample.strayStore }
    let seen := (reconcileInstance {} i).exchanges (Session.handle noFaults) session
    (writesIn seen).length = 1 ∧
      ((reconcileInstance {} i).run (Session.handle noFaults) session).1 =
        .error (.namespaces "prod" 1) ∧
      ∃ (lists : List Exchange) (visits : List Visit),
        seen = lists ++ visits.flatMap (·.seen) ∧
        visits.map (·.name) = ["gone", "store"] ∧
        (∀ v ∈ visits, v.Completed {} noFaults) ∧
        readsIn seen = [.getNamespace "gone", .getNamespace "store"] := by
  intro i session seen
  obtain ⟨-, goes_on, -⟩ := reconcileInstance_visits {} i noFaults session
  have complete : ∀ e ∈ seen, e.request.FindsAffected → e.error? = none := by
    intro e member finds
    have others : ∀ e ∈ seen, e.error? = none ∨ e.request = .getNamespace "gone" := by
      decide +kernel
    rcases others e member with answered | reads
    · exact answered
    · rw [reads] at finds
      cases finds
  obtain ⟨lists, visits, exchanged, -, named, -, completed, reads, -⟩ := goes_on complete
  refine ⟨by decide +kernel, by decide +kernel, lists, visits, exchanged, ?_, completed, ?_⟩
  · rw [named]
    decide +kernel
  · rw [reads]
    decide +kernel

end TracingSidecar
