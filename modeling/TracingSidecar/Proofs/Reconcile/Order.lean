import TracingSidecar.Proofs.Reconcile.Visits

/-!
# The order of passes

Passes over different namespaces do not get in each other's way, as long as it depends on the request
alone whether it fails.  A pass reads the instances and the workloads of its namespace, and writes
the latter; so each of its requests may change places with each one of another pass
(`interchangeable_handle`), and then the passes may (`Client.AsksOnly.interchangeable`).  From two
visits in exchanged order follows any order of the visits of a pass for an instance
(`run_visitAll_perm`).
-/

namespace TracingSidecar

/-! ### Computations in exchanged order -/

/-- Two computations on one state that come to the same in either order, each with its own
result. -/
structure Interchangeable {σ α β : Type} (f : σ → α × σ) (g : σ → β × σ) : Prop where
  first : ∀ state, (f (g state).2).1 = (f state).1
  second : ∀ state, (g (f state).2).1 = (g state).1
  state : ∀ state, (f (g state).2).2 = (g (f state).2).2

namespace Interchangeable

variable {σ α β : Type} {f : σ → α × σ} {g : σ → β × σ}

theorem symm (interchangeable : Interchangeable f g) : Interchangeable g f :=
  ⟨interchangeable.second, interchangeable.first, fun state => (interchangeable.state state).symm⟩

/-- A computation that leaves the state, and whose result the other one does not change. -/
theorem of_read (reads : ∀ state, (f state).2 = state)
    (same : ∀ state, (f (g state).2).1 = (f state).1) : Interchangeable f g :=
  ⟨same, fun state => by rw [reads], fun state => by rw [reads, reads]⟩

end Interchangeable

namespace Client

variable {σ α β γ : Type} {handle : Handler σ} {g : σ → γ × σ}

theorem interchangeable_andThen {c : Client α} {f : α → Client β}
    (first : Interchangeable (c.run handle) g)
    (second : ∀ state, Interchangeable ((f (c.run handle state).1).run handle) g) :
    Interchangeable ((c >>= f).run handle) g := by
  constructor
  · intro state
    rw [run_andThen, run_andThen, first.first, first.state, (second state).first]
  · intro state
    rw [run_andThen, (second state).second, first.second]
  · intro state
    rw [run_andThen, run_andThen, first.first, first.state, (second state).state]

/-- A client may change places with whatever each of its requests may. -/
theorem AsksOnly.interchangeable {sort : Request → Prop} {c : Client α} (asks : c.AsksOnly sort)
    (each : ∀ request, sort request → Interchangeable (handle request) g) :
    Interchangeable (c.run handle) g := by
  induction c with
  | done value => exact ⟨fun _ => rfl, fun _ => rfl, fun _ => rfl⟩
  | ask request next ih =>
    have first := each request asks.1
    exact interchangeable_andThen (c := send request) (f := next) first
      fun state => ih _ (asks.2 _)

end Client

/-! ### Stores without memory of requests -/

/-- The write of a workload where it is kept. -/
def StoredWorkload.replacement (s : StoredWorkload) : Request :=
  .replaceWorkload s.namespaceName s.workload.anyName s.workload

namespace Store

variable (store : Store)

/-- Where workloads are kept. -/
def addresses : List (WorkloadKind × String × String) := store.workloads.map (·.address)

theorem addresses_put (s : StoredWorkload) : (store.put s).addresses = store.addresses := by
  have kept : (store.workloads.map (overwrite s)).map (·.address) = store.addresses := by
    rw [List.map_map]
    exact List.map_congr_left fun old _ => address_overwrite s old
  exact kept

theorem overwrite_comm (a b old : StoredWorkload) (apart : a.address ≠ b.address) :
    overwrite a (overwrite b old) = overwrite b (overwrite a old) := by
  unfold overwrite
  by_cases at_a : old.address = a.address <;> by_cases at_b : old.address = b.address
  · exact absurd (at_a.symm.trans at_b) apart
  · simp [at_a, apart]
  · simp [at_b, apart.symm]
  · simp [at_a, at_b]

/-- Writes at different addresses may be exchanged. -/
theorem put_comm (a b : StoredWorkload) (apart : a.address ≠ b.address) :
    (store.put a).put b = (store.put b).put a := by
  refine Store.ext (x := put (put store a) b) rfl rfl ?_
  change (store.workloads.map (overwrite a)).map (overwrite b) =
    (store.workloads.map (overwrite b)).map (overwrite a)
  rw [List.map_map, List.map_map]
  exact List.map_congr_left fun old _ => overwrite_comm b a old apart.symm

variable (fails : Request → Option ApiError)

/-- Answer requests from the store, unless they fail, which depends on nothing but the request. -/
def handle : Client.Handler Store := fun request store =>
  match fails request with
  | some error => (.error error, store)
  | none => store.answer request

theorem handle_eq (request : Request) (session : Session) :
    let result := Session.handle (fun _ => fails) request session
    handle fails request session.store = (result.1, result.2.store) := by
  dsimp only [handle, Session.handle]
  cases fails request <;> rfl

/-- A session in which failures depend on the request comes to what its store comes to. -/
theorem run_handle {α : Type} (c : Client α) (session : Session) :
    let result := c.run (Session.handle fun _ => fails) session
    c.run (handle fails) session.store = (result.1, result.2.store) := by
  induction c generalizing session with
  | done value => rfl
  | ask request next ih =>
    intro result
    rw [Client.run_ask, handle_eq fails request session]
    exact ih _ _

/-- What may change places against a store may do so in a session, where only the record of the
requests shows the order. -/
theorem run_of_interchangeable {α β : Type} {c : Client α} {d : Client β} (session : Session)
    (exchanged : Interchangeable (c.run (handle fails)) (d.run (handle fails))) :
    let handle := Session.handle fun _ => fails
    let first := c.run handle session
    let second_after := d.run handle first.2
    let second := d.run handle session
    let first_after := c.run handle second.2
    first_after.1 = first.1 ∧ second_after.1 = second.1 ∧
      first_after.2.store = second_after.2.store := by
  intro sessions first second_after second first_after
  have run_first := run_handle fails c session
  have run_second := run_handle fails d session
  have run_first_after := run_handle fails c second.2
  have run_second_after := run_handle fails d first.2
  have first_result := exchanged.first session.store
  have second_result := exchanged.second session.store
  have left := exchanged.state session.store
  rw [run_second, run_first_after, run_first] at first_result
  rw [run_first, run_second_after, run_second] at second_result
  rw [run_second, run_first_after, run_first, run_second_after] at left
  exact ⟨first_result, second_result, left⟩

/-- A read leaves the store, whether it fails or not. -/
theorem handle_of_ne_put (request : Request) (reads : request.method ≠ "PUT") :
    (handle fails request store).2 = store := by
  have noted := Session.handle_of_ne_put (fun _ => fails) { store } request reads
  have same := congrArg Prod.snd (handle_eq fails request { store })
  exact same.trans (congrArg Session.store noted)

/-- A write is accepted if it does not fail and there is a workload at its address. -/
theorem handle_replacement (s : StoredWorkload) :
    handle fails s.replacement store =
      if fails s.replacement = none ∧ s.address ∈ store.addresses then
        (.ok s.workload, store.put s)
      else (.error ((fails s.replacement).getD .notFound), store) := by
  unfold handle
  cases fails s.replacement with
  | some error => simp
  | none => simp [StoredWorkload.replacement, answer, addresses]

theorem store_handle_replacement (s : StoredWorkload) :
    (handle fails s.replacement store).2 =
      if fails s.replacement = none ∧ s.address ∈ store.addresses then store.put s else store := by
  rw [handle_replacement]
  split <;> rfl

/-- Whatever is asked for, workloads stay at the addresses where they are. -/
theorem addresses_handle (request : Request) :
    (handle fails request store).2.addresses = store.addresses := by
  by_cases reads : request.method ≠ "PUT"
  · rw [handle_of_ne_put store fails request reads]
  · cases request with
    | listInstances | listNamespaces | getNamespace | listWorkloads => simp [Request.method] at reads
    | replaceWorkload namespaceName name w =>
      unfold handle
      split
      next => rfl
      next =>
        simp only [answer]
        split
        · exact store.addresses_put _
        · rfl

end Store

/-! ### Requests about different namespaces -/

/-- A write in one namespace does not change what a visit of another one reads. -/
theorem Store.answer_put_of_ne (store : Store) (s : StoredWorkload) (name : String)
    (request : Request) (of_visit : request.IsOfVisit name) (reads : request.method ≠ "PUT")
    (apart : s.namespaceName ≠ name) :
    ((store.put s).answer request).1 = (store.answer request).1 := by
  rcases of_visit with rfl | lists | concerns
  · have same : (store.put s).namespaces = store.namespaces := rfl
    simp only [answer, same]
    split <;> rfl
  · cases lists
    rfl
  · cases concerns with
    | list kind => exact congrArg Except.ok (store.listWorkloads_put_of_ne s kind name (Or.inr apart))
    | write _ writes => exact absurd writes.method reads

section Requests

variable (fails : Request → Option ApiError)

theorem interchangeable_read_write (name : String) (request : Request)
    (of_visit : request.IsOfVisit name) (reads : request.method ≠ "PUT") (s : StoredWorkload)
    (apart : s.namespaceName ≠ name) :
    Interchangeable (Store.handle fails request) (Store.handle fails s.replacement) := by
  refine .of_read (fun store => store.handle_of_ne_put fails request reads) fun store => ?_
  rw [Store.store_handle_replacement]
  split
  next =>
    dsimp only [Store.handle]
    cases fails request with
    | some error => rfl
    | none => exact store.answer_put_of_ne s name request of_visit reads apart
  next => rfl

/-- Whether a write is accepted does not depend on other writes, for none of them removes a
workload. -/
theorem interchangeable_writes (s t : StoredWorkload) (apart : s.address ≠ t.address) :
    Interchangeable (Store.handle fails s.replacement) (Store.handle fails t.replacement) := by
  constructor
  · intro store
    rw [Store.handle_replacement _ fails s, Store.handle_replacement store fails s,
      Store.addresses_handle]
    split <;> rfl
  · intro store
    rw [Store.handle_replacement _ fails t, Store.handle_replacement store fails t,
      Store.addresses_handle]
    split <;> rfl
  · intro store
    have later (u v : StoredWorkload) := Store.store_handle_replacement
      (Store.handle fails v.replacement store).2 fails u
    simp only [Store.addresses_handle] at later
    rw [later s t, later t s, Store.store_handle_replacement, Store.store_handle_replacement]
    split <;> split
    · exact store.put_comm t s apart.symm
    · rfl
    · rfl
    · rfl

/-- Each request of a visit may change places with each one of a visit of another namespace. -/
theorem interchangeable_handle (a b : String) (apart : a ≠ b) (first second : Request)
    (of_first : first.IsOfVisit a) (of_second : second.IsOfVisit b) :
    Interchangeable (Store.handle fails first) (Store.handle fails second) := by
  by_cases first_writes : first.method = "PUT" <;> by_cases second_writes : second.method = "PUT"
  · obtain ⟨w⟩ := of_first.writesTo first_writes
    obtain ⟨v⟩ := of_second.writesTo second_writes
    exact interchangeable_writes fails ⟨a, w⟩ ⟨b, v⟩ fun same =>
      apart (congrArg (·.2.1) same)
  · obtain ⟨w⟩ := of_first.writesTo first_writes
    exact (interchangeable_read_write fails b second of_second second_writes ⟨a, w⟩ apart).symm
  · obtain ⟨v⟩ := of_second.writesTo second_writes
    exact interchangeable_read_write fails a first of_first first_writes ⟨b, v⟩ apart.symm
  · refine .of_read (fun store => store.handle_of_ne_put fails first first_writes) fun store => ?_
    rw [store.handle_of_ne_put fails second second_writes]

end Requests

/-! ### Visits in any order -/

section Visits

variable (context : PassContext) (fails : Request → Option ApiError)

/-- Passes over different namespaces may change places. -/
theorem interchangeable_reconcileNamespace (a b : Namespace) (apart : a.anyName ≠ b.anyName) :
    Interchangeable ((reconcileNamespace context a).run (Store.handle fails))
      ((reconcileNamespace context b).run (Store.handle fails)) := by
  have asks (ns : Namespace) : (reconcileNamespace context ns).AsksOnly
      (Request.IsOfVisit ns.anyName) :=
    (reconcileNamespace_asksOnly context ns).mono fun _ => Or.inr
  refine (asks a).interchangeable fun first of_first => Interchangeable.symm ?_
  refine (asks b).interchangeable fun second of_second => Interchangeable.symm ?_
  exact interchangeable_handle fails _ _ apart first second of_first of_second

/-- A visit may change places with whatever each of the requests for its namespace may: the
namespace that it passes over has the name that was asked for. -/
theorem interchangeable_visit {α : Type} {g : Store → α × Store} (name : String)
    (each : ∀ request : Request, request.IsOfVisit name →
      Interchangeable (Store.handle fails request) g) :
    Interchangeable ((visit context name).run (Store.handle fails)) g := by
  have reads : (Client.sendNamed name (.getNamespace name)).AsksOnly (Request.IsOfVisit name) :=
    Client.asksOnly_sendNamed name (Or.inl rfl)
  refine Client.interchangeable_andThen (reads.interchangeable each) fun store => ?_
  cases answer : ((Client.sendNamed name (.getNamespace name)).run (Store.handle fails) store).1 with
  | error error => exact (Client.asksOnly_pure false).interchangeable each
  | ok ns =>
    have same : ns.anyName = name := by
      by_cases named : name = ""
      · rw [Client.sendNamed, if_pos named] at answer
        cases answer
      · rw [Client.run_sendNamed _ _ _ _ named] at answer
        dsimp only [Store.handle] at answer
        split at answer
        next => cases answer
        next => exact store.anyName_of_getNamespace name ns answer
    have passes : (reconcileNamespace context ns).AsksOnly (Request.IsOfVisit name) :=
      (reconcileNamespace_asksOnly context ns).mono fun _ of_pass => Or.inr (same ▸ of_pass)
    exact (Client.asksOnly_andThen passes fun _ => Client.asksOnly_pure _).interchangeable each

theorem interchangeable_visits (a b : String) (apart : a ≠ b) :
    Interchangeable ((visit context a).run (Store.handle fails))
      ((visit context b).run (Store.handle fails)) := by
  refine interchangeable_visit context fails a fun first of_first => Interchangeable.symm ?_
  refine interchangeable_visit context fails b fun second of_second => Interchangeable.symm ?_
  exact interchangeable_handle fails a b apart first second of_first of_second

/-- By induction over the exchanges that lead from one order to the other. -/
theorem run_visitAll_perm (names others : List String) (perm : names.Perm others) (store : Store) :
    (visitAll context names).run (Store.handle fails) store =
      (visitAll context others).run (Store.handle fails) store := by
  induction perm generalizing store with
  | nil => rfl
  | cons name _ ih => simp only [visitAll, Client.run_andThen, Client.run_pure, ih]
  | swap first second rest =>
    by_cases same : first = second
    · rw [same]
    · have exchanged := interchangeable_visits context fails first second same
      simp only [visitAll, Client.run_andThen, Client.run_pure, exchanged.first, exchanged.second,
        exchanged.state]
      rw [Nat.add_left_comm]
  | trans _ _ first_ih second_ih => exact (first_ih store).trans (second_ih store)

end Visits

/-- A pass for an instance that visits the affected namespaces in an order of its own. -/
def reconcileInstanceBy (order : List String → List String) (context : PassContext)
    (i : TracingInstance) : Client (Except OperatorError Nat) := do
  match ← findAffected i.anyName with
  | .error error => pure (.error (.api error))
  | .ok names => do
      let failed ← visitAll context (order names)
      if 0 < failed then pure (.error (.namespaces i.anyName failed))
      else pure (.ok names.length)

/-- In the order in which the namespaces are found, this is the pass for an instance. -/
theorem reconcileInstanceBy_id : reconcileInstanceBy id = reconcileInstance := rfl

theorem run_reconcileInstanceBy (context : PassContext) (fails : Request → Option ApiError)
    (i : TracingInstance) (order : List String → List String)
    (perm : ∀ names, (order names).Perm names) (store : Store) :
    (reconcileInstanceBy order context i).run (Store.handle fails) store =
      (reconcileInstance context i).run (Store.handle fails) store := by
  rw [reconcileInstanceBy, reconcileInstance, Client.run_andThen, Client.run_andThen]
  cases ((findAffected i.anyName).run (Store.handle fails) store).1 with
  | error error => rfl
  | ok names =>
    dsimp only
    rw [Client.run_andThen, Client.run_andThen,
      run_visitAll_perm context fails (order names) names (perm names)]

/-- Passes commute.  Where it depends on the request alone whether it fails, passes over different
namespaces come to the same results and leave the same store in either order; and a pass for an
instance comes to the same result and leaves the same store in whatever order it visits the
affected namespaces. -/
theorem passes_commute (context : PassContext) (fails : Request → Option ApiError)
    (session : Session) :
    let handle := Session.handle fun _ => fails
    (∀ a b : Namespace, a.anyName ≠ b.anyName →
      let first := (reconcileNamespace context a).run handle session
      let second_after := (reconcileNamespace context b).run handle first.2
      let second := (reconcileNamespace context b).run handle session
      let first_after := (reconcileNamespace context a).run handle second.2
      first_after.1 = first.1 ∧ second_after.1 = second.1 ∧
        first_after.2.store = second_after.2.store) ∧
    ∀ (i : TracingInstance) (order : List String → List String),
      (∀ names, (order names).Perm names) →
      let ordered := (reconcileInstanceBy order context i).run handle session
      let ascending := (reconcileInstance context i).run handle session
      ordered.1 = ascending.1 ∧ ordered.2.store = ascending.2.store := by
  intro handle
  constructor
  · intro a b apart
    exact Store.run_of_interchangeable fails session
      (interchangeable_reconcileNamespace context fails a b apart)
  · intro i order perm ordered ascending
    have same := run_reconcileInstanceBy context fails i order perm session.store
    rw [Store.run_handle, Store.run_handle] at same
    exact Prod.ext_iff.1 same

/-- Where the stateful sets of one namespace cannot be listed, passes over that one and another come
to what they come to alone, and so do the visits in descending order. -/
theorem passes_commute_stray :
    let fails : Request → Option ApiError := fun request =>
      if request = .listWorkloads .statefulSet (some "store") then some .unreadable else none
    let session : Session := { store := Sample.strayStore }
    let a : Namespace := ⟨{ name := some "store" }⟩
    let b : Namespace := ⟨{ name := some "gone" }⟩
    let i := Sample.instanceAt "tracing" "prod"
    let handle := Session.handle fun _ => fails
    let first := (reconcileNamespace {} a).run handle session
    let second_after := (reconcileNamespace {} b).run handle first.2
    let second := (reconcileNamespace {} b).run handle session
    let first_after := (reconcileNamespace {} a).run handle second.2
    let descending := (reconcileInstanceBy List.reverse {} i).run handle session
    let ascending := (reconcileInstance {} i).run handle session
    (first_after.1 = first.1 ∧ second_after.1 = second.1 ∧
        first_after.2.store = second_after.2.store) ∧
      (descending.1 = ascending.1 ∧ descending.2.store = ascending.2.store) ∧
      first.1 = .error (.workloads "store" 1) ∧ second.1 = .ok ⟨1, 1, 0⟩ ∧
      ascending.1 = .error (.namespaces "prod" 2) := by
  intro fails session a b i
  have apart : a.anyName ≠ b.anyName := by decide
  obtain ⟨passes, visits⟩ := passes_commute {} fails session
  refine ⟨passes a b apart, visits i List.reverse List.reverse_perm, ?_, ?_, ?_⟩
  · decide +kernel
  · decide +kernel
  · decide +kernel

end TracingSidecar
