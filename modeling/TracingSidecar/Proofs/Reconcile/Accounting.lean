import TracingSidecar.Proofs.Reconcile.Convergence
import TracingSidecar.Proofs.Reconcile.Requests

/-!
# What a pass sends and what it reports

A pass stops where the instances cannot be listed.  After any other failure it goes on, and the
failure is counted: what it reports is accounted for by what it has exchanged
(`reconcileNamespace_accounts`).

`Accounts` says this of a part of a pass, whoever answers.  Where a store answers, the list of each
kind is what the store has of it before the pass (`workloads_passOver`): all writes so far were of
other kinds.  Failures may depend on all that was sent before; still, patterns of failures that
differ in writes only make no difference to what is sent (`requests_passOver_of_agree`).
-/

namespace TracingSidecar

/-! ### Counting exchanges -/

/-- Whether workloads are listed. -/
def Request.listsWorkloads : Request → Bool
  | .listWorkloads _ _ => true
  | _ => false

/-- The lists of workloads that were asked for. -/
def listsIn (seen : List Exchange) : List Request :=
  (seen.map (·.request)).filter (·.listsWorkloads)

/-- The number of requests of a sort that failed. -/
def failuresIn (seen : List Exchange) (sort : Request → Bool) : Nat :=
  seen.countP fun e => sort e.request && e.error?.isSome

/-- The workloads in an answer, if workloads were asked for. -/
def Exchange.workloads : Exchange → List Workload
  | ⟨.listWorkloads _ _, .ok found⟩ => found
  | _ => []

/-- The workloads that were listed, in order. -/
def listedIn (seen : List Exchange) : List Workload := seen.flatMap (·.workloads)

theorem Exchange.workloads_eq_nil (e : Exchange) (other : e.request.listsWorkloads = false) :
    e.workloads = [] := by
  obtain ⟨request, answer⟩ := e
  cases request with
  | listWorkloads => cases other
  | listInstances | listNamespaces | getNamespace | replaceWorkload => rfl

theorem Exchange.workloads_of_error (e : Exchange) (error : ApiError)
    (failed : e.error? = some error) : e.workloads = [] := by
  obtain ⟨request, _ | answer⟩ := e
  · cases request <;> rfl
  · cases failed

theorem listedIn_eq_nil (seen : List Exchange) (none_asked : listsIn seen = []) :
    listedIn seen = [] := by
  apply List.flatMap_eq_nil_iff.2
  intro e member
  apply e.workloads_eq_nil
  have not_listed := List.filter_eq_nil_iff.1 none_asked e.request (List.mem_map_of_mem member)
  simpa using not_listed

theorem listedIn_append (first second : List Exchange) :
    listedIn (first ++ second) = listedIn first ++ listedIn second := List.flatMap_append

section Pass

variable (config : InjectorConfig) (ns : Namespace) (instances : List TracingInstance)

/-- The write that the evaluation of a workload calls for. -/
def write? (w : Workload) : Option Request :=
  let evaluated := (evaluate config ns instances w).2
  if (evaluate config ns instances w).1.changed then
    some (.replaceWorkload ns.anyName evaluated.anyName evaluated)
  else none

/-! ### Whatever answers -/

/-- What is known of a part of a pass that listed some kinds and went over some workloads: which
writes it has sent, and what it reports. -/
structure Accounts (kinds : List WorkloadKind) (workloads : List Workload) (seen : List Exchange)
    (report : PassReport) : Prop where
  lists : listsIn seen = kinds.map (.listWorkloads · (some ns.anyName))
  writes : writesIn seen = workloads.filterMap (write? config ns instances)
  evaluated : report.evaluated = workloads.length
  persisted : report.persisted + failuresIn seen (·.method = "PUT") = (writesIn seen).length
  failed : report.failed =
    failuresIn seen (·.listsWorkloads) + failuresIn seen (·.method = "PUT")

variable {config ns instances} in
/-- Two parts of a pass, one after the other. -/
theorem Accounts.append {first_kinds second_kinds : List WorkloadKind}
    {first_workloads second_workloads : List Workload} {first_seen second_seen : List Exchange}
    {first_report second_report : PassReport}
    (first : Accounts config ns instances first_kinds first_workloads first_seen first_report)
    (second : Accounts config ns instances second_kinds second_workloads second_seen
      second_report) :
    Accounts config ns instances (first_kinds ++ second_kinds)
      (first_workloads ++ second_workloads) (first_seen ++ second_seen)
      (first_report + second_report) := by
  have writes : writesIn (first_seen ++ second_seen) =
      writesIn first_seen ++ writesIn second_seen := by
    simp only [writesIn, List.map_append, List.filter_append]
  have failures (sort : Request → Bool) : failuresIn (first_seen ++ second_seen) sort =
      failuresIn first_seen sort + failuresIn second_seen sort := List.countP_append
  constructor
  · rw [List.map_append, ← first.lists, ← second.lists]
    simp only [listsIn, List.map_append, List.filter_append]
  · rw [writes, first.writes, second.writes, List.filterMap_append]
  · rw [PassReport.evaluated_add, first.evaluated, second.evaluated, List.length_append]
  · have first_persisted := first.persisted
    have second_persisted := second.persisted
    rw [PassReport.persisted_add, failures, writes, List.length_append]
    omega
  · have first_failed := first.failed
    have second_failed := second.failed
    rw [PassReport.failed_add, failures, failures]
    omega

variable {config ns instances} in
/-- Where nothing failed, all workloads were evaluated and all writes accepted. -/
theorem Accounts.report_eq {kinds : List WorkloadKind} {workloads : List Workload}
    {seen : List Exchange} {report : PassReport}
    (accounts : Accounts config ns instances kinds workloads seen report)
    (success : report.failed = 0) :
    report = { evaluated := workloads.length, persisted := (writesIn seen).length } := by
  have evaluated := accounts.evaluated
  have persisted := accounts.persisted
  have failed := accounts.failed
  have none_refused : failuresIn seen (·.method = "PUT") = 0 := by omega
  rw [none_refused, Nat.add_zero] at persisted
  rw [← evaluated, ← persisted, ← success]

variable {σ : Type} (handle : Client.Handler σ) (state : σ)

/-- The write that an evaluation calls for, with its answer. -/
theorem accounts_write (w : Workload) (changed : (evaluate config ns instances w).1.changed = true)
    (answer : Except ApiError Workload) :
    let evaluated := (evaluate config ns instances w).2
    Accounts config ns instances [] [w]
      [⟨.replaceWorkload ns.anyName evaluated.anyName evaluated, answer⟩]
      (match answer with
        | .ok _ => { evaluated := 1, persisted := 1 }
        | .error _ => { evaluated := 1, failed := 1 }) := by
  intro evaluated
  have called_for : write? config ns instances w =
      some (.replaceWorkload ns.anyName evaluated.anyName evaluated) := if_pos changed
  have writes : writesIn [⟨.replaceWorkload ns.anyName evaluated.anyName evaluated, answer⟩] =
      [w].filterMap (write? config ns instances) := by
    simp [called_for, writesIn, Request.method]
  cases answer with
  | error error => exact ⟨rfl, writes, rfl, rfl, rfl⟩
  | ok kept => exact ⟨rfl, writes, rfl, rfl, rfl⟩

/-- The failure of a write is counted, and its answer is not looked at. -/
theorem passWorkload_accounts (w : Workload) (named : w.anyName ≠ "") :
    Accounts config ns instances [] [w]
      ((passWorkload config ns instances w).exchanges handle state)
      ((passWorkload config ns instances w).run handle state).1 := by
  have evaluated_named : (evaluate config ns instances w).2.anyName ≠ "" := by
    rw [(identity_evaluate config ns instances w).2]
    exact named
  unfold passWorkload
  cases changed : (evaluate config ns instances w).1.changed with
  | false => constructor <;> simp [changed, write?, listsIn, writesIn, failuresIn]
  | true =>
    simp only [changed, if_true, persist, Client.run_andThen, Client.exchanges_andThen,
      Client.exchanges_sendNamed _ _ _ _ evaluated_named,
      Client.run_sendNamed _ _ _ _ evaluated_named]
    have accounts := accounts_write config ns instances w changed
    cases answer : (handle (.replaceWorkload ns.anyName (evaluate config ns instances w).2.anyName
      (evaluate config ns instances w).2) state).1 with
    | error error => exact accounts (.error error)
    | ok kept => exact accounts (.ok kept)

theorem passWorkloads_accounts (workloads : List Workload)
    (named : ∀ w ∈ workloads, w.anyName ≠ "") :
    Accounts config ns instances [] workloads
      ((passWorkloads config ns instances workloads).exchanges handle state)
      ((passWorkloads config ns instances workloads).run handle state).1 := by
  induction workloads generalizing state with
  | nil => constructor <;> rfl
  | cons w rest ih =>
    have first := passWorkload_accounts config ns instances handle state w
      (named w List.mem_cons_self)
    have others := ih ((passWorkload config ns instances w).run handle state).2
      fun other member => named other (List.mem_cons_of_mem _ member)
    simp only [passWorkloads, Client.exchanges_andThen, Client.exchanges_pure, Client.run_andThen,
      Client.run_pure, List.append_nil]
    exact first.append others

/-- An answered list, before anything is done about the workloads in it. -/
theorem accounts_list (kind : WorkloadKind) (found : List Workload) :
    Accounts config ns instances [kind] []
      [⟨.listWorkloads kind (some ns.anyName), .ok found⟩] {} := by
  constructor <;> rfl

theorem accounts_unlisted (kind : WorkloadKind) (error : ApiError) :
    Accounts config ns instances [kind] []
      [⟨.listWorkloads kind (some ns.anyName), .error error⟩] { failed := 1 } := by
  constructor <;> rfl

theorem passKind_accounts (kind : WorkloadKind)
    (named : ∀ w ∈ listedIn ((passKind config ns instances kind).exchanges handle state),
      w.anyName ≠ "") :
    Accounts config ns instances [kind]
      (listedIn ((passKind config ns instances kind).exchanges handle state))
      ((passKind config ns instances kind).exchanges handle state)
      ((passKind config ns instances kind).run handle state).1 := by
  revert named
  unfold passKind
  rw [Client.exchanges_andThen, Client.run_andThen, Client.exchanges_send, Client.run_send,
    List.singleton_append]
  cases (handle (.listWorkloads kind (some ns.anyName)) state).1 with
  | error error =>
    intro _
    exact accounts_unlisted config ns instances kind error
  | ok found =>
    intro named
    let rest := passWorkloads config ns instances found
    let later := (handle (.listWorkloads kind (some ns.anyName)) state).2
    have all_named : ∀ w ∈ found, w.anyName ≠ "" :=
      fun w member => named w (List.mem_append_left (listedIn (rest.exchanges handle later)) member)
    have went_over := passWorkloads_accounts config ns instances handle later found all_named
    have no_more : listedIn (rest.exchanges handle later) = [] := listedIn_eq_nil _ went_over.lists
    have listed : listedIn (⟨.listWorkloads kind (some ns.anyName), .ok found⟩ ::
        rest.exchanges handle later) = found := by
      rw [listedIn, List.flatMap_cons, ← listedIn, no_more, List.append_nil]
      rfl
    have whole := (accounts_list config ns instances kind found).append went_over
    rw [PassReport.empty_add] at whole
    rw [listed]
    exact whole

theorem passOver_accounts (kinds : List WorkloadKind)
    (named : ∀ w ∈ listedIn ((passOver config ns instances kinds).exchanges handle state),
      w.anyName ≠ "") :
    Accounts config ns instances kinds
      (listedIn ((passOver config ns instances kinds).exchanges handle state))
      ((passOver config ns instances kinds).exchanges handle state)
      ((passOver config ns instances kinds).run handle state).1 := by
  induction kinds generalizing state with
  | nil => constructor <;> rfl
  | cons kind rest ih =>
    simp only [passOver, Client.exchanges_andThen, Client.exchanges_pure, Client.run_andThen,
      Client.run_pure, List.append_nil, listedIn_append] at named ⊢
    have first := passKind_accounts config ns instances handle state kind
      fun w member => named w (List.mem_append_left _ member)
    have others := ih ((passKind config ns instances kind).run handle state).2
      fun w member => named w (List.mem_append_right _ member)
    exact first.append others

end Pass

/-! ### The lists of a store -/

/-- Whether the list of a kind in a namespace was answered. -/
def isServed (namespaceName : String) (seen : List Exchange) (kind : WorkloadKind) : Bool :=
  seen.any fun e => e.request = .listWorkloads kind (some namespaceName) && e.error?.isNone

theorem isServed_cons_of_ne (namespaceName : String) (e : Exchange) (rest : List Exchange)
    (kind : WorkloadKind) (other : e.request ≠ .listWorkloads kind (some namespaceName)) :
    isServed namespaceName (e :: rest) kind = isServed namespaceName rest kind := by
  simp [isServed, other]

theorem isServed_cons_self (namespaceName : String) (e : Exchange) (rest : List Exchange)
    (kind : WorkloadKind) (asked : e.request = .listWorkloads kind (some namespaceName))
    (unserved : isServed namespaceName rest kind = false) :
    isServed namespaceName (e :: rest) kind = e.error?.isNone := by
  rw [isServed, List.any_cons, ← isServed, unserved]
  simp [asked]

theorem isServed_eq_false (namespaceName : String) (seen : List Exchange) (kind : WorkloadKind)
    (unasked : .listWorkloads kind (some namespaceName) ∉ listsIn seen) :
    isServed namespaceName seen kind = false := by
  apply List.any_eq_false.2
  intro e member served
  simp only [Bool.and_eq_true, decide_eq_true_eq] at served
  apply unasked
  rw [← served.1]
  exact List.mem_filter.2 ⟨List.mem_map_of_mem member, by rw [served.1]; rfl⟩

theorem isServed_append (namespaceName : String) (first second : List Exchange)
    (none_asked : listsIn first = []) :
    isServed namespaceName (first ++ second) = isServed namespaceName second := by
  funext kind
  have unserved := isServed_eq_false namespaceName first kind (by simp [none_asked])
  rw [isServed, List.any_append, ← isServed, ← isServed, unserved, Bool.false_or]

theorem listsIn_cons (e : Exchange) (rest : List Exchange) :
    listsIn (e :: rest) =
      if e.request.listsWorkloads then e.request :: listsIn rest else listsIn rest := by
  rw [listsIn, List.map_cons, List.filter_cons]
  rfl

/-- The only list of a kind decides whether that kind is served, and has no say in the others. -/
theorem filter_isServed_cons (namespaceName : String) (e : Exchange) (rest : List Exchange)
    (kind : WorkloadKind) (others : List WorkloadKind) (distinct : (kind :: others).Nodup)
    (asked : e.request = .listWorkloads kind (some namespaceName))
    (lists : listsIn rest = others.map (.listWorkloads · (some namespaceName))) :
    (kind :: others).filter (isServed namespaceName (e :: rest)) =
      if e.error?.isNone then kind :: others.filter (isServed namespaceName rest)
      else others.filter (isServed namespaceName rest) := by
  obtain ⟨fresh, -⟩ := List.nodup_cons.1 distinct
  have others_served : others.filter (isServed namespaceName (e :: rest)) =
      others.filter (isServed namespaceName rest) := by
    apply List.filter_congr
    intro other member
    apply isServed_cons_of_ne
    rw [asked]
    rintro same
    cases same
    exact fresh member
  have kind_once : isServed namespaceName rest kind = false := by
    apply isServed_eq_false
    rw [lists]
    intro again
    obtain ⟨other, member, same⟩ := List.mem_map.1 again
    cases same
    exact fresh member
  rw [List.filter_cons, others_served, isServed_cons_self namespaceName e rest kind asked kind_once]

/-- Where each kind was listed once, the listed workloads are those of the kinds that were
served. -/
theorem listedIn_eq_flatMap (namespaceName : String) (contents : WorkloadKind → List Workload)
    (kinds : List WorkloadKind) (seen : List Exchange) (distinct : kinds.Nodup)
    (lists : listsIn seen = kinds.map (.listWorkloads · (some namespaceName)))
    (answers : ∀ e ∈ seen, ∀ kind, e.request = .listWorkloads kind (some namespaceName) →
      e.error? = none → e.workloads = contents kind) :
    listedIn seen = (kinds.filter (isServed namespaceName seen)).flatMap contents := by
  induction seen generalizing kinds with
  | nil =>
    have none_asked : kinds = [] := List.map_eq_nil_iff.1 lists.symm
    rw [none_asked]
    rfl
  | cons e rest ih =>
    have rest_answers := fun later member => answers later (List.mem_cons_of_mem e member)
    have listed : listedIn (e :: rest) = e.workloads ++ listedIn rest := List.flatMap_cons
    rw [listsIn_cons] at lists
    cases asked : e.request.listsWorkloads with
    | false =>
      rw [asked] at lists
      have same_served : isServed namespaceName (e :: rest) = isServed namespaceName rest := by
        funext kind
        apply isServed_cons_of_ne
        intro same
        rw [same] at asked
        cases asked
      rw [listed, e.workloads_eq_nil asked, same_served, List.nil_append]
      exact ih kinds distinct lists rest_answers
    | true =>
      rw [asked, if_pos rfl] at lists
      cases kinds with
      | nil => cases lists
      | cons kind others =>
        rw [List.map_cons, List.cons.injEq] at lists
        rw [listed, ih others (List.nodup_cons.1 distinct).2 lists.2 rest_answers,
          filter_isServed_cons namespaceName e rest kind others distinct lists.1 lists.2]
        cases answered : e.error? with
        | some error =>
          rw [e.workloads_of_error error answered]
          rfl
        | none =>
          rw [answers e List.mem_cons_self kind lists.1 answered]
          rfl

section Lists

variable (config : InjectorConfig) (ns : Namespace) (instances : List TracingInstance)
  (faults : Faults)

/-- A step over a workload does not show in the lists of other kinds. -/
theorem listWorkloads_passWorkloads (workloads : List Workload) (session : Session)
    (kind : WorkloadKind) (others : ∀ w ∈ workloads, w.kind ≠ kind) :
    ((passWorkloads config ns instances workloads).run (Session.handle faults)
        session).2.store.listWorkloads kind (some ns.anyName) =
      session.store.listWorkloads kind (some ns.anyName) := by
  induction workloads generalizing session with
  | nil => rfl
  | cons w rest ih =>
    rw [passWorkloads, Client.run_andThen, Client.run_andThen, Client.run_pure,
      ih _ fun other member => others other (List.mem_cons_of_mem _ member)]
    rcases passWorkload_store config ns instances faults session w with ⟨same, -⟩ | written
    · rw [same]
    · rw [written]
      apply Store.listWorkloads_put_of_ne
      left
      rw [StoredWorkload.evaluated, (identity_evaluate config ns instances w).1]
      exact others w List.mem_cons_self

/-- Going over one kind does not show in the lists of others. -/
theorem listWorkloads_passKind (kind other : WorkloadKind) (different : kind ≠ other)
    (session : Session) :
    ((passKind config ns instances kind).run (Session.handle faults)
        session).2.store.listWorkloads other (some ns.anyName) =
      session.store.listWorkloads other (some ns.anyName) := by
  have noted := Session.handle_of_ne_put faults session (.listWorkloads kind (some ns.anyName))
    (by simp [Request.method])
  rw [passKind, Client.run_andThen, Client.run_send, noted]
  split
  next => rfl
  next found success =>
    have listed := Session.answer_of_handle faults session _ found success
    cases listed
    apply listWorkloads_passWorkloads
    intro w member
    rw [((session.store.mem_listWorkloads kind ns.anyName w).1 member).2]
    exact different

/-- An answered list is that of the store. -/
theorem workloads_handle (session : Session) (kind : WorkloadKind) (namespaceName : Option String)
    (answered : Exchange.error? ⟨.listWorkloads kind namespaceName,
      (Session.handle faults (.listWorkloads kind namespaceName) session).1⟩ = none) :
    Exchange.workloads ⟨.listWorkloads kind namespaceName,
      (Session.handle faults (.listWorkloads kind namespaceName) session).1⟩ =
        session.store.listWorkloads kind namespaceName := by
  cases answer : (Session.handle faults (.listWorkloads kind namespaceName) session).1 with
  | error error =>
    rw [answer] at answered
    cases answered
  | ok found =>
    have kept := Session.answer_of_handle faults session _ found answer
    exact (Except.ok.inj kept).symm

/-- Going over one kind lists that kind only, as the store has it. -/
theorem workloads_passKind (kind asked : WorkloadKind) (session : Session) (e : Exchange)
    (member : e ∈ (passKind config ns instances kind).exchanges (Session.handle faults) session)
    (asks : e.request = .listWorkloads asked (some ns.anyName)) (answered : e.error? = none) :
    asked = kind ∧ e.workloads = session.store.listWorkloads kind (some ns.anyName) := by
  rw [passKind, Client.exchanges_andThen, Client.exchanges_send, Client.run_send,
    List.singleton_append] at member
  rcases List.mem_cons.1 member with rfl | stored
  · cases asks
    exact ⟨rfl, workloads_handle faults session kind _ answered⟩
  · -- After the list there are only writes.
    have writes : e.request.WritesTo ns.anyName := by
      cases answer : (Session.handle faults (.listWorkloads kind (some ns.anyName)) session).1 with
      | error error =>
        rw [answer] at stored
        cases stored
      | ok found =>
        rw [answer] at stored
        exact (passWorkloads_asksOnly config ns instances found).of_mem_exchanges _ _ e stored
    rw [asks] at writes
    cases writes

/-- Each kind is listed as it was before the first of them: a pass over other kinds does not show in
its list. -/
theorem workloads_passOver (contents : WorkloadKind → List Workload) (kinds : List WorkloadKind)
    (distinct : kinds.Nodup) (session : Session)
    (same : ∀ kind ∈ kinds,
      session.store.listWorkloads kind (some ns.anyName) = contents kind) :
    ∀ e ∈ (passOver config ns instances kinds).exchanges (Session.handle faults) session,
      ∀ kind, e.request = .listWorkloads kind (some ns.anyName) → e.error? = none →
        e.workloads = contents kind := by
  induction kinds generalizing session with
  | nil =>
    intro e member
    cases member
  | cons first rest ih =>
    intro e member kind asked answered
    obtain ⟨fresh, rest_distinct⟩ := List.nodup_cons.1 distinct
    simp only [passOver, Client.exchanges_andThen, Client.exchanges_pure, List.append_nil] at member
    rcases List.mem_append.1 member with here | later
    · obtain ⟨rfl, listed⟩ := workloads_passKind config ns instances faults first kind session e
        here asked answered
      rw [listed]
      exact same kind List.mem_cons_self
    · refine ih rest_distinct _ ?_ e later kind asked answered
      intro other listed
      rw [listWorkloads_passKind config ns instances faults first other]
      · exact same other (List.mem_cons_of_mem _ listed)
      · rintro rfl
        exact fresh listed

/-- What a pass lists is in the store. -/
theorem mem_listedIn_passOver (kinds : List WorkloadKind) (distinct : kinds.Nodup)
    (session : Session) (w : Workload)
    (member : w ∈ listedIn
      ((passOver config ns instances kinds).exchanges (Session.handle faults) session)) :
    ⟨ns.anyName, w⟩ ∈ session.store.workloads := by
  obtain ⟨e, exchanged, listed⟩ := List.mem_flatMap.1 member
  have asked := (passOver_asksOnly config ns instances kinds).of_mem_exchanges _ _ e exchanged
  have answered : e.error? = none := by
    cases failed : e.error? with
    | none => rfl
    | some error =>
      rw [e.workloads_of_error error failed] at listed
      cases listed
  have contents := workloads_passOver config ns instances faults
    (fun kind => session.store.listWorkloads kind (some ns.anyName)) kinds distinct session
    (fun _ _ => rfl) e exchanged
  generalize request_eq : e.request = request at asked
  cases asked with
  | list kind =>
    rw [contents kind request_eq answered] at listed
    exact ((session.store.mem_listWorkloads kind ns.anyName w).1 listed).1
  | write request writes =>
    have other : e.request.listsWorkloads = false := by
      rw [request_eq]
      cases writes
      rfl
    rw [e.workloads_eq_nil other] at listed
    cases listed

/-- A pass over some kinds accounts for the workloads in the store of the kinds that were served. -/
theorem passOver_accounts_served (kinds : List WorkloadKind) (distinct : kinds.Nodup)
    (session : Session)
    (named : ∀ s ∈ session.store.workloads, s.namespaceName = ns.anyName →
      s.workload.anyName ≠ "") :
    let seen := (passOver config ns instances kinds).exchanges (Session.handle faults) session
    Accounts config ns instances kinds
      ((kinds.filter (isServed ns.anyName seen)).flatMap fun kind =>
        session.store.listWorkloads kind (some ns.anyName))
      seen ((passOver config ns instances kinds).run (Session.handle faults) session).1 := by
  intro seen
  have listed_named : ∀ w ∈ listedIn seen, w.anyName ≠ "" := fun w member =>
    named _ (mem_listedIn_passOver config ns instances faults kinds distinct session w member) rfl
  have accounts := passOver_accounts config ns instances (Session.handle faults) session kinds
    listed_named
  have listed := listedIn_eq_flatMap ns.anyName
    (fun kind => session.store.listWorkloads kind (some ns.anyName)) kinds seen distinct
    accounts.lists
    (workloads_passOver config ns instances faults _ kinds distinct session fun _ _ => rfl)
  rw [← listed]
  exact accounts

/-! ### Which writes fail -/

/-- The requests of a run are noted. -/
theorem sent_run {α : Type} (c : Client α) (session : Session) :
    (c.run (Session.handle faults) session).2.sent =
      session.sent ++ (c.exchanges (Session.handle faults) session).map (·.request) := by
  induction c generalizing session with
  | done value => exact (List.append_nil _).symm
  | ask request next ih =>
    have noted : (Session.handle faults request session).2.sent = session.sent ++ [request] := by
      unfold Session.handle
      split <;> rfl
    rw [Client.run_ask, ih, noted, Client.exchanges, List.append_assoc]
    rfl

/-- The requests for the workloads of a list do not depend on their answers. -/
theorem requests_passWorkloads (workloads : List Workload) (session : Session)
    (named : ∀ w ∈ workloads, w.anyName ≠ "") :
    ((passWorkloads config ns instances workloads).exchanges (Session.handle faults)
        session).map (·.request) = workloads.filterMap (write? config ns instances) := by
  have accounts := passWorkloads_accounts config ns instances (Session.handle faults) session
    workloads named
  rw [← accounts.writes, writesIn, List.filter_eq_self.2]
  intro request member
  obtain ⟨e, exchanged, rfl⟩ := List.mem_map.1 member
  have writes := (passWorkloads_asksOnly config ns instances workloads).of_mem_exchanges _ _ e
    exchanged
  simpa using writes.method

/-- The requests over one kind depend on whether its list fails, and not on the writes. -/
theorem requests_passKind (kind : WorkloadKind) (session : Session)
    (named : ∀ w ∈ session.store.listWorkloads kind (some ns.anyName), w.anyName ≠ "") :
    ((passKind config ns instances kind).exchanges (Session.handle faults)
        session).map (·.request) =
      .listWorkloads kind (some ns.anyName) ::
        match faults session.sent (.listWorkloads kind (some ns.anyName)) with
        | some _ => []
        | none => (session.store.listWorkloads kind (some ns.anyName)).filterMap
            (write? config ns instances) := by
  rw [passKind, Client.exchanges_andThen, Client.exchanges_send, Client.run_send,
    List.singleton_append, List.map_cons]
  congr 1
  cases failed : faults session.sent (.listWorkloads kind (some ns.anyName)) with
  | some error =>
    have refused : (Session.handle faults (.listWorkloads kind (some ns.anyName)) session).1 =
        .error error := by
      rw [Session.handle, failed]
    rw [refused]
    rfl
  | none =>
    have answered : (Session.handle faults (.listWorkloads kind (some ns.anyName)) session).1 =
        .ok (session.store.listWorkloads kind (some ns.anyName)) := by
      rw [Session.handle, failed]
      rfl
    rw [answered]
    exact requests_passWorkloads config ns instances faults _ _ named

/-- Two patterns of failures that let the same requests fail, apart from writes. -/
def Faults.AgreeOnReads (faults other : Faults) : Prop :=
  ∀ sent request, request.method ≠ "PUT" → faults sent request = other sent request

theorem handle_of_agree (other : Faults) (agree : faults.AgreeOnReads other) (request : Request)
    (reads : request.method ≠ "PUT") (session : Session) :
    Session.handle faults request session = Session.handle other request session := by
  unfold Session.handle
  rw [agree session.sent request reads]

theorem requests_passOver_of_agree (other : Faults) (agree : faults.AgreeOnReads other)
    (kinds : List WorkloadKind) (distinct : kinds.Nodup) (s t : Session) (sent : s.sent = t.sent)
    (same : ∀ kind ∈ kinds, s.store.listWorkloads kind (some ns.anyName) =
      t.store.listWorkloads kind (some ns.anyName))
    (named : ∀ kind ∈ kinds, ∀ w ∈ t.store.listWorkloads kind (some ns.anyName), w.anyName ≠ "") :
    ((passOver config ns instances kinds).exchanges (Session.handle faults) s).map (·.request) =
      ((passOver config ns instances kinds).exchanges (Session.handle other) t).map
        (·.request) := by
  induction kinds generalizing s t with
  | nil => rfl
  | cons kind rest ih =>
    obtain ⟨fresh, rest_distinct⟩ := List.nodup_cons.1 distinct
    have kind_named := named kind List.mem_cons_self
    have kind_same := same kind List.mem_cons_self
    have first : ((passKind config ns instances kind).exchanges (Session.handle faults) s).map
        (·.request) = ((passKind config ns instances kind).exchanges (Session.handle other) t).map
          (·.request) := by
      rw [requests_passKind config ns instances other kind t kind_named, ← kind_same, ← sent,
        ← agree s.sent _ (by simp [Request.method])]
      exact requests_passKind config ns instances faults kind s (kind_same ▸ kind_named)
    have still_same (later : WorkloadKind) (listed : later ∈ rest) (patterns : Faults)
        (session : Session) := listWorkloads_passKind config ns instances patterns kind later
      (fun again => fresh (again ▸ listed)) session
    simp only [passOver, Client.exchanges_andThen, Client.exchanges_pure, List.append_nil,
      List.map_append]
    rw [first]
    congr 1
    apply ih rest_distinct
    · rw [sent_run, sent_run, first, sent]
    · intro later listed
      rw [still_same later listed, still_same later listed]
      exact same later (List.mem_cons_of_mem _ listed)
    · intro later listed
      rw [still_same later listed]
      exact named later (List.mem_cons_of_mem _ listed)

end Lists

/-! ### Whole passes -/

/-- A pass ends with the list of instances if that fails; otherwise it goes over the workloads. -/
theorem reconcileNamespace_outcome {σ : Type} (handle : Client.Handler σ) (state : σ)
    (context : PassContext) (ns : Namespace) :
    let listing := (listInstances context.watched).run handle state
    let listed := (listInstances context.watched).exchanges handle state
    let seen := (reconcileNamespace context ns).exchanges handle state
    let result := ((reconcileNamespace context ns).run handle state).1
    (∃ error, listing.1 = .error error ∧ seen = listed ∧ result = .error (.api error)) ∨
      ∃ instances, listing.1 = .ok instances ∧
        let rest := passOver context.config ns instances passKinds
        let report := (rest.run handle listing.2).1
        seen = listed ++ rest.exchanges handle listing.2 ∧
          result = if 0 < report.failed then .error (.workloads ns.anyName report.failed)
            else .ok report := by
  unfold reconcileNamespace
  rw [Client.exchanges_andThen, Client.run_andThen]
  generalize (listInstances context.watched).run handle state = listing
  obtain ⟨answer, later⟩ := listing
  cases answer with
  | error error => exact Or.inl ⟨error, rfl, List.append_nil _, rfl⟩
  | ok instances =>
    refine Or.inr ⟨instances, rfl, ?_⟩
    dsimp only
    rw [Client.exchanges_andThen, Client.run_andThen]
    split
    next failed => exact ⟨by rw [Client.exchanges_pure, List.append_nil], rfl⟩
    next success => exact ⟨by rw [Client.exchanges_pure, List.append_nil], rfl⟩

section WholePass

variable (context : PassContext) (ns : Namespace) (faults : Faults) (session : Session)

/-- The part of a pass that lists the instances accounts for no workload. -/
theorem listInstances_accounts (instances : List TracingInstance) :
    Accounts context.config ns instances [] []
      ((listInstances context.watched).exchanges (Session.handle faults) session) {} := by
  have asks := (listInstances_asksOnly context.watched).of_mem_exchanges (Session.handle faults)
    session
  generalize (listInstances context.watched).exchanges (Session.handle faults) session = listed
    at asks
  have none_of (sort : Request → Bool)
      (apart : ∀ namespaceName, sort (.listInstances namespaceName) = false) :
      ∀ e ∈ listed, sort e.request = false := by
    intro e member
    have asked := asks e member
    generalize e.request = request at asked
    cases asked
    exact apart _
  have no_workloads := none_of (·.listsWorkloads) fun _ => rfl
  have no_writes := none_of (·.method = "PUT") fun _ => by simp [Request.method]
  have none_failed (sort : Request → Bool) (none_asked : ∀ e ∈ listed, sort e.request = false) :
      failuresIn listed sort = 0 :=
    List.countP_eq_zero.2 fun e member => by simp [none_asked e member]
  have no_lists : listsIn listed = [] := by
    simpa [listsIn, List.filter_map] using no_workloads
  have nothing_sent : writesIn listed = [] :=
    writesIn_eq_nil listed fun e member => by simpa using no_writes e member
  constructor
  · exact no_lists
  · exact nothing_sent
  · rfl
  · rw [nothing_sent, none_failed _ no_writes]
    rfl
  · rw [none_failed _ no_workloads, none_failed _ no_writes]

/-- A pass whose list of instances fails ends there. -/
theorem reconcileNamespace_unlisted (e : Exchange)
    (member : e ∈ (reconcileNamespace context ns).exchanges (Session.handle faults) session)
    (asked : e.request.ListsInstances) (error : ApiError) (failed : e.error? = some error) :
    ((reconcileNamespace context ns).run (Session.handle faults) session).1 = .error (.api error) ∧
      writesIn ((reconcileNamespace context ns).exchanges (Session.handle faults) session) = [] := by
  have gives_up (member : e ∈ (listInstances context.watched).exchanges (Session.handle faults)
      session) := (listInstances_givesUp context.watched).eq_error _ _ e member error failed
  rcases reconcileNamespace_outcome (Session.handle faults) session context ns with
    ⟨other, stopped, seen, result⟩ | ⟨instances, listed, seen, -⟩
  · rw [seen] at member
    rw [gives_up member] at stopped
    cases stopped
    have nothing := listInstances_accounts context ns faults session []
    exact ⟨result, by rw [seen, nothing.writes]; rfl⟩
  · rw [seen] at member
    rcases List.mem_append.1 member with early | late
    · rw [gives_up early] at listed
      cases listed
    · have concerns := (passOver_asksOnly context.config ns instances passKinds).of_mem_exchanges
        _ _ e late
      generalize e.request = request at asked concerns
      cases asked
      cases concerns with
      | write _ writes => cases writes

/-- A pass that has listed the instances accounts for all workloads of the kinds that were
served. -/
theorem reconcileNamespace_listed
    (named : ∀ s ∈ session.store.workloads, s.namespaceName = ns.anyName →
      s.workload.anyName ≠ "")
    (complete : ∀ e ∈ (reconcileNamespace context ns).exchanges (Session.handle faults) session,
      e.request.ListsInstances → e.error? = none) :
    let seen := (reconcileNamespace context ns).exchanges (Session.handle faults) session
    ∃ report,
      Accounts context.config ns (session.store.candidates context.watched) passKinds
        ((passKinds.filter (isServed ns.anyName seen)).flatMap fun kind =>
          session.store.listWorkloads kind (some ns.anyName)) seen report ∧
      ((reconcileNamespace context ns).run (Session.handle faults) session).1 =
        if 0 < report.failed then .error (.workloads ns.anyName report.failed)
        else .ok report := by
  intro seen
  have asks := (listInstances_asksOnly context.watched).of_mem_exchanges (Session.handle faults)
    session
  have reads := listInstances_reads faults session context.watched
  rcases reconcileNamespace_outcome (Session.handle faults) session context ns with
    ⟨error, stopped, seen_eq, -⟩ | ⟨instances, listed, seen_eq, result⟩
  · obtain ⟨instances, listed⟩ := (listInstances_givesUp context.watched).eq_ok _ _
      fun e member => complete e (seen_eq ▸ member) (asks e member)
    rw [listed] at stopped
    cases stopped
  · have known := reads.answer instances listed
    have same := reads.onlyRead.store
    have unlisted := listInstances_accounts context ns faults session instances
    subst known
    generalize ((listInstances context.watched).run (Session.handle faults) session).2 = later
      at same seen_eq result
    refine ⟨_, ?_, result⟩
    have accounts := unlisted.append (passOver_accounts_served context.config ns
      (session.store.candidates context.watched) faults passKinds (by decide) later
      (same ▸ named))
    rw [PassReport.empty_add, same] at accounts
    unfold seen
    rw [seen_eq, isServed_append ns.anyName _ _ unlisted.lists]
    exact accounts

/-- The writes of a pass do not depend on which of them fail. -/
theorem writesIn_reconcileNamespace_of_agree (other : Faults) (agree : faults.AgreeOnReads other)
    (named : ∀ s ∈ session.store.workloads, s.namespaceName = ns.anyName →
      s.workload.anyName ≠ "") :
    writesIn ((reconcileNamespace context ns).exchanges (Session.handle other) session) =
      writesIn ((reconcileNamespace context ns).exchanges (Session.handle faults) session) := by
  obtain ⟨same_run, same_exchanges⟩ := (listInstances_asksOnly context.watched).run_congr
    (Session.handle faults) session (Session.handle other) fun request session asked =>
      handle_of_agree faults other agree request (by cases asked; simp [Request.method]) session
  have reads := listInstances_reads faults session context.watched
  rcases reconcileNamespace_outcome (Session.handle faults) session context ns with
    ⟨error, stopped, seen, -⟩ | ⟨instances, listed, seen, -⟩ <;>
  rcases reconcileNamespace_outcome (Session.handle other) session context ns with
    ⟨other_error, other_stopped, other_seen, -⟩ | ⟨other_instances, other_listed, other_seen, -⟩
  · rw [seen, other_seen, same_exchanges]
  · rw [← same_run, stopped] at other_listed
    cases other_listed
  · rw [← same_run, listed] at other_stopped
    cases other_stopped
  · rw [← same_run, listed] at other_listed
    cases other_listed
    rw [seen, other_seen, ← same_run, ← same_exchanges]
    have same := reads.onlyRead.store
    generalize ((listInstances context.watched).run (Session.handle faults) session).2 = later
      at same
    have requests := requests_passOver_of_agree context.config ns instances faults other agree
      passKinds (by decide) later later rfl (fun _ _ => rfl) ?_
    · simp only [writesIn, List.map_append, requests]
    · intro kind _ w member
      rw [same] at member
      exact named _ ((session.store.mem_listWorkloads kind ns.anyName w).1 member).1 rfl

end WholePass

/-- A pass lists the instances first, and stops there if that fails.  Then it lists the workloads of
each kind, whatever failed before, and sends one write for each listed workload that its evaluation
changes, in the order of the lists; which writes fail makes no difference to what is sent.  The pass
fails if a list or a write did, and counts these failures; otherwise it counts the workloads and the
writes. -/
theorem reconcileNamespace_accounts (context : PassContext) (ns : Namespace) (faults : Faults)
    (session : Session)
    (named : ∀ s ∈ session.store.workloads, s.namespaceName = ns.anyName →
      s.workload.anyName ≠ "") :
    let seen := (reconcileNamespace context ns).exchanges (Session.handle faults) session
    let result := ((reconcileNamespace context ns).run (Session.handle faults) session).1
    (∀ e ∈ seen, e.request.ListsInstances → ∀ error, e.error? = some error →
      result = .error (.api error) ∧ writesIn seen = []) ∧
    ((∀ e ∈ seen, e.request.ListsInstances → e.error? = none) →
      let instances := session.store.candidates context.watched
      let served := passKinds.filter (isServed ns.anyName seen)
      let listed := served.flatMap fun kind => session.store.listWorkloads kind (some ns.anyName)
      let failed := failuresIn seen (·.listsWorkloads) + failuresIn seen (·.method = "PUT")
      listsIn seen = passKinds.map (.listWorkloads · (some ns.anyName)) ∧
      writesIn seen = listed.filterMap (write? context.config ns instances) ∧
      result = if 0 < failed then .error (.workloads ns.anyName failed)
        else .ok { evaluated := listed.length, persisted := (writesIn seen).length }) ∧
    ∀ other, faults.AgreeOnReads other →
      writesIn ((reconcileNamespace context ns).exchanges (Session.handle other) session) =
        writesIn seen := by
  intro seen result
  refine ⟨reconcileNamespace_unlisted context ns faults session, ?_, ?_⟩
  · intro complete instances served listed failed
    obtain ⟨report, accounts, outcome⟩ := reconcileNamespace_listed context ns faults session named
      complete
    have counted : report.failed = failed := accounts.failed
    refine ⟨accounts.lists, accounts.writes, ?_⟩
    unfold result
    rw [outcome, counted]
    split
    next => rfl
    next none_failed =>
      rw [accounts.report_eq (counted.trans (Nat.eq_zero_of_not_pos none_failed))]
  · intro other agree
    exact writesIn_reconcileNamespace_of_agree context ns faults session other agree named

/-- The sample deployment cannot be stored and the stateful sets cannot be listed: the pass counts
both, and the write is sent as it would be if it were accepted. -/
theorem reconcileNamespace_accounts_shop :
    let ns : Namespace := ⟨{ name := some "store" }⟩
    let unlisted : Faults := fun _ request =>
      if request = .listWorkloads .statefulSet (some "store") then some .unreadable else none
    let faults : Faults := fun sent request =>
      if request.method = "PUT" then some (.transport "refused") else unlisted sent request
    let session : Session := { store := Sample.store }
    let seen := (reconcileNamespace {} ns).exchanges (Session.handle faults) session
    let result := ((reconcileNamespace {} ns).run (Session.handle faults) session).1
    let evaluated := (evaluate {} ns [Sample.instanceAt "tracing" "prod"] Sample.shop).2
    result = .error (.workloads "store" 2) ∧
      (∀ e ∈ seen, e.request.ListsInstances → ∀ error, e.error? = some error →
        result = .error (.api error) ∧ writesIn seen = []) ∧
      listsIn seen = passKinds.map (.listWorkloads · (some "store")) ∧
      writesIn seen = [.replaceWorkload "store" "shop" evaluated] ∧
      writesIn ((reconcileNamespace {} ns).exchanges (Session.handle unlisted) session) =
        writesIn seen := by
  intro ns unlisted faults session seen result evaluated
  have named : ∀ s ∈ session.store.workloads, s.namespaceName = ns.anyName →
      s.workload.anyName ≠ "" := by
    decide
  obtain ⟨stops, goes_on, independent⟩ := reconcileNamespace_accounts {} ns faults session named
  have complete : ∀ e ∈ seen, e.request.ListsInstances → e.error? = none := by
    intro e member asked
    have others : ∀ e ∈ seen, e.error? = none ∨ e.request.listsWorkloads ∨
        e.request.method = "PUT" := by
      decide +kernel
    rcases others e member with answered | listed | written
    · exact answered
    · generalize e.request = request at asked listed
      cases asked
      cases listed
    · generalize e.request = request at asked written
      cases asked
      simp [Request.method] at written
  obtain ⟨lists, writes, outcome⟩ := goes_on complete
  have agree : faults.AgreeOnReads unlisted := fun _ _ reads => if_neg reads
  refine ⟨outcome.trans ?_, stops, lists, writes.trans ?_, independent unlisted agree⟩
  · decide +kernel
  · rfl

end TracingSidecar
