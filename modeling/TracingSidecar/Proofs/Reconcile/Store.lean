import Mathlib.Data.List.Nodup
import TracingSidecar.Api.Client

/-!
# A store behind the interface

What a client is run against: a store that keeps one workload for each kind, namespace and name,
and any pattern of failures.  A workload that is accepted is kept as it was sent, and a request that
fails changes nothing.  The kept workloads are described by `mem_put`: a write replaces the workload
at its own address and no other.
-/

namespace TracingSidecar

/-- A workload and the namespace that it is kept in. -/
structure StoredWorkload where
  namespaceName : String
  workload : Workload
  deriving DecidableEq

/-- Where a workload is kept. -/
def StoredWorkload.address (s : StoredWorkload) : WorkloadKind × String × String :=
  (s.workload.kind, s.namespaceName, s.workload.anyName)

/-- The objects that a cluster keeps, with one workload at an address. -/
@[ext] structure Store where
  instances : List TracingInstance
  namespaces : List Namespace
  workloads : List StoredWorkload
  distinct : (workloads.map (·.address)).Nodup

namespace Store

variable (store : Store)

/-- Two kept workloads with one address are the same. -/
theorem eq_of_address (a b : StoredWorkload) (a_stored : a ∈ store.workloads)
    (b_stored : b ∈ store.workloads) (same : a.address = b.address) : a = b :=
  List.inj_on_of_nodup_map store.distinct a_stored b_stored same

/-- Change every workload, but none of the addresses. -/
def mapWorkloads (f : StoredWorkload → StoredWorkload) (keeps : ∀ s, (f s).address = s.address) :
    Store where
  instances := store.instances
  namespaces := store.namespaces
  workloads := store.workloads.map f
  distinct := by
    have same : (store.workloads.map f).map (·.address) = store.workloads.map (·.address) := by
      rw [List.map_map]
      exact List.map_congr_left fun s _ => keeps s
    rw [same]
    exact store.distinct

/-- What a write does to one kept workload. -/
def overwrite (s old : StoredWorkload) : StoredWorkload :=
  if old.address = s.address then s else old

theorem address_overwrite (s old : StoredWorkload) : (overwrite s old).address = old.address := by
  unfold overwrite
  split
  next same => exact same.symm
  next => rfl

/-- Keep a workload in the place of the one at its address. -/
def put (s : StoredWorkload) : Store := store.mapWorkloads (overwrite s) (address_overwrite s)

/-- After a write, the written workload is kept at its address and all others are as before. -/
theorem mem_put (s other : StoredWorkload) (member : other ∈ (store.put s).workloads) :
    other = s ∨ (other ∈ store.workloads ∧ other.address ≠ s.address) := by
  obtain ⟨old, old_member, rfl⟩ := List.mem_map.1 member
  unfold overwrite
  split
  next => exact Or.inl rfl
  next different => exact Or.inr ⟨old_member, different⟩

theorem mem_put_of_ne (s other : StoredWorkload) (member : other ∈ store.workloads)
    (different : other.address ≠ s.address) : other ∈ (store.put s).workloads :=
  List.mem_map.2 ⟨other, member, if_neg different⟩

/-- The instances of one namespace or of all. -/
def listInstances (namespaceName : Option String) : List TracingInstance :=
  store.instances.filter fun i => namespaceName.all fun name => i.namespace? = some name

/-- The workloads of a kind, in one namespace or in all. -/
def listWorkloads (kind : WorkloadKind) (namespaceName : Option String) : List Workload :=
  (store.workloads.filter fun s =>
    s.workload.kind = kind && namespaceName.all fun name => s.namespaceName = name).map (·.workload)

theorem mem_listWorkloads (kind : WorkloadKind) (namespaceName : String) (w : Workload) :
    w ∈ store.listWorkloads kind (some namespaceName) ↔
      ⟨namespaceName, w⟩ ∈ store.workloads ∧ w.kind = kind := by
  unfold listWorkloads
  constructor
  · intro member
    obtain ⟨s, kept, rfl⟩ := List.mem_map.1 member
    have parts := List.mem_filter.1 kept
    simp only [Option.all_some, Bool.and_eq_true, decide_eq_true_eq] at parts
    obtain ⟨stored, same_kind, rfl⟩ := parts
    exact ⟨stored, same_kind⟩
  · intro parts
    apply List.mem_map.2
    exact ⟨⟨namespaceName, w⟩, List.mem_filter.2 ⟨parts.1, by simp [parts.2]⟩, rfl⟩

/-- The listed workloads of a namespace are kept at different addresses. -/
theorem distinct_listWorkloads (kind : WorkloadKind) (namespaceName : String) :
    (store.listWorkloads kind (some namespaceName)).Pairwise fun a b =>
      StoredWorkload.address ⟨namespaceName, a⟩ ≠ StoredWorkload.address ⟨namespaceName, b⟩ := by
  have distinct := List.pairwise_map.1 store.distinct
  unfold listWorkloads
  rw [List.pairwise_map]
  apply (distinct.filter _).imp_of_mem
  intro a b a_kept b_kept different
  have a_parts := (List.mem_filter.1 a_kept).2
  have b_parts := (List.mem_filter.1 b_kept).2
  simp only [Option.all_some, Bool.and_eq_true, decide_eq_true_eq] at a_parts b_parts
  rw [← a_parts.2]
  intro same
  apply different
  rw [← a_parts.2] at b_parts
  simpa [StoredWorkload.address, b_parts.2] using same

/-- A write does not show in the lists of another kind or namespace. -/
theorem listWorkloads_put_of_ne (s : StoredWorkload) (kind : WorkloadKind) (namespaceName : String)
    (apart : s.workload.kind ≠ kind ∨ s.namespaceName ≠ namespaceName) :
    (store.put s).listWorkloads kind (some namespaceName) =
      store.listWorkloads kind (some namespaceName) := by
  let listed (old : StoredWorkload) : Bool :=
    old.workload.kind = kind && (some namespaceName).all fun name => old.namespaceName = name
  have elsewhere (old : StoredWorkload) (same : old.address = s.address) : listed old = false := by
    simp only [StoredWorkload.address, Prod.mk.injEq] at same
    obtain ⟨same_kind, same_namespace, -⟩ := same
    rcases apart with kind_differs | namespace_differs
    · simp [listed, same_kind, kind_differs]
    · simp [listed, same_namespace, namespace_differs]
  have still_listed : listed ∘ overwrite s = listed := by
    funext old
    simp only [Function.comp_apply, overwrite]
    split
    next same => rw [elsewhere s rfl, elsewhere old same]
    next => rfl
  change (((store.workloads.map (overwrite s)).filter listed).map (·.workload)) =
    (store.workloads.filter listed).map (·.workload)
  rw [List.filter_map, still_listed, List.map_map]
  apply List.map_congr_left
  intro old member
  have different : old.address ≠ s.address := by
    intro same
    rw [List.mem_filter, elsewhere old same] at member
    cases member.2
  simp only [Function.comp_apply, overwrite, if_neg different]

/-- Answer a request.  A workload is accepted under its own name, where one of its kind is kept. -/
def answer : (request : Request) → Except ApiError request.Answer × Store
  | .listInstances namespaceName => (.ok (store.listInstances namespaceName), store)
  | .listNamespaces => (.ok store.namespaces, store)
  | .getNamespace name =>
      match store.namespaces.find? fun ns => ns.anyName = name with
      | some ns => (.ok ns, store)
      | none => (.error .notFound, store)
  | .listWorkloads kind namespaceName => (.ok (store.listWorkloads kind namespaceName), store)
  | .replaceWorkload namespaceName name workload =>
      let s : StoredWorkload := ⟨namespaceName, workload⟩
      if workload.anyName = name && store.workloads.any fun old => old.address = s.address then
        (.ok workload, store.put s)
      else (.error .notFound, store)

end Store

/-- Which requests fail, given all that were sent before. -/
abbrev Faults := List Request → Request → Option ApiError

/-- Nothing fails. -/
def noFaults : Faults := fun _ _ => none

/-- A store, and the requests that were sent to it. -/
structure Session where
  store : Store
  sent : List Request := []

/-- Answer requests from the store, unless they fail; a request that fails leaves the store. -/
def Session.handle (faults : Faults) : Client.Handler Session := fun request session =>
  match faults session.sent request with
  | some error => (.error error, { session with sent := session.sent ++ [request] })
  | none =>
      let (answer, store) := session.store.answer request
      (answer, { store, sent := session.sent ++ [request] })

namespace Session

variable (faults : Faults) (session : Session)

/-- Whatever fails, an answer that comes is that of the store. -/
theorem answer_of_handle (request : Request) (found : request.Answer)
    (success : (handle faults request session).1 = .ok found) :
    (session.store.answer request).1 = .ok found := by
  unfold handle at success
  split at success
  · cases success
  · exact success

/-- A request that only reads is noted, whether it fails or not, and that is all. -/
theorem handle_of_ne_put (request : Request) (reads : request.method ≠ "PUT") :
    (handle faults request session).2 =
      { session with sent := session.sent ++ [request] } := by
  unfold handle
  split
  next => rfl
  next =>
    cases request with
    | listInstances | listNamespaces | listWorkloads => rfl
    | getNamespace name =>
      simp only [Store.answer]
      split <;> rfl
    | replaceWorkload => exact absurd rfl reads

/-- A write that fails changes nothing, and one that succeeds is kept as it was sent. -/
theorem store_handle_replaceWorkload (namespaceName name : String) (w : Workload) :
    let result := handle faults (.replaceWorkload namespaceName name w) session
    (∃ error, result.1 = .error error ∧ result.2.store = session.store) ∨
      (∃ kept, result.1 = .ok kept ∧ result.2.store = session.store.put ⟨namespaceName, w⟩) := by
  intro result
  unfold result handle
  split
  next error _ => exact Or.inl ⟨error, rfl, rfl⟩
  next =>
    simp only [Store.answer]
    split
    · exact Or.inr ⟨w, rfl, rfl⟩
    · exact Or.inl ⟨.notFound, rfl, rfl⟩

/-- Where nothing fails, a workload is accepted in the place of one with its address. -/
theorem handle_replaceWorkload (namespaceName : String) (old w : Workload)
    (stored : ⟨namespaceName, old⟩ ∈ session.store.workloads) (kind : w.kind = old.kind)
    (name : w.anyName = old.anyName) :
    (handle noFaults (.replaceWorkload namespaceName w.anyName w) session).1 = .ok w := by
  have found : session.store.workloads.any
      (fun other => other.address = StoredWorkload.address ⟨namespaceName, w⟩) = true := by
    apply List.any_eq_true.2
    exact ⟨_, stored, by simp [StoredWorkload.address, kind, name]⟩
  simp [handle, noFaults, Store.answer, found]

/-! ### Reading -/

/-- Some requests were sent meanwhile, none of them a write. -/
def OnlyRead (before after : Session) : Prop :=
  ∃ sent, after = { before with sent := before.sent ++ sent } ∧
    ∀ request ∈ sent, request.method ≠ "PUT"

theorem OnlyRead.refl : OnlyRead session session :=
  ⟨[], by rw [List.append_nil], by simp⟩

theorem OnlyRead.trans {first second third : Session} (earlier : OnlyRead first second)
    (later : OnlyRead second third) : OnlyRead first third := by
  obtain ⟨sent, rfl, reads⟩ := earlier
  obtain ⟨more, rfl, reads_too⟩ := later
  refine ⟨sent ++ more, by simp, ?_⟩
  intro request member
  exact (List.mem_append.1 member).elim (reads request) (reads_too request)

theorem OnlyRead.store {before after : Session} (reads : OnlyRead before after) :
    after.store = before.store := by
  obtain ⟨sent, rfl, -⟩ := reads
  rfl

theorem onlyRead_handle (request : Request) (reads : request.method ≠ "PUT") :
    OnlyRead session (handle faults request session).2 :=
  ⟨[request], handle_of_ne_put faults session request reads, by simpa using reads⟩

/-- What a client that only reads is known to have done: if it has an answer, it is the expected
one, and it has it if nothing fails. -/
structure Reads {α : Type} (faults : Faults) (before : Session) (expected : α)
    (result : Except ApiError α × Session) : Prop where
  onlyRead : OnlyRead before result.2
  answer : ∀ found, result.1 = .ok found → found = expected
  complete : faults = noFaults → result.1 = .ok expected

variable {α β : Type}

theorem reads_pure (value : α) :
    Reads faults session value
      ((pure (.ok value) : Client (Except ApiError α)).run (handle faults) session) where
  onlyRead := .refl session
  answer := by
    rintro found success
    cases success
    rfl
  complete := fun _ => rfl

theorem reads_send (request : Request) (expected : request.Answer)
    (reads : request.method ≠ "PUT") (kept : (session.store.answer request).1 = .ok expected) :
    Reads faults session expected ((Client.send request).run (handle faults) session) where
  onlyRead := onlyRead_handle faults session request reads
  answer := by
    intro found success
    have same := answer_of_handle faults session request found success
    rw [kept] at same
    cases same
    rfl
  complete := by
    rintro rfl
    exact kept

/-- A client that goes on with what it has read, and stops when that fails. -/
theorem reads_andThen {faults : Faults} {session : Session} {c : Client (Except ApiError α)}
    {next : Except ApiError α → Client (Except ApiError β)} {a : α} {b : β}
    (stops : ∀ error, next (.error error) = pure (.error error))
    (first : Reads faults session a (c.run (handle faults) session))
    (second : ∀ later : Session, later.store = session.store →
      Reads faults later b ((next (.ok a)).run (handle faults) later)) :
    Reads faults session b ((c >>= next).run (handle faults) session) := by
  have then_second := second (c.run (handle faults) session).2 first.onlyRead.store
  rw [Client.run_andThen]
  cases answer : (c.run (handle faults) session).1 with
  | error error =>
    rw [stops error]
    refine ⟨first.onlyRead, nofun, ?_⟩
    intro none_fails
    have success := first.complete none_fails
    rw [answer] at success
    cases success
  | ok value =>
    rw [first.answer value answer]
    exact ⟨first.onlyRead.trans then_second.onlyRead, then_second.answer, then_second.complete⟩

end Session

end TracingSidecar
