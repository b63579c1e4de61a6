import Mathlib.Logic.Function.Basic
import TracingSidecar.Proofs.Injection.Run
import TracingSidecar.Proofs.Reconcile.Pass
import TracingSidecar.Proofs.Reconcile.Requests

/-!
# Passes that run at the same time

Passes share nothing but the store, and take no locks.  Each accepted write gives a workload a
version that was never used, and a workload that is sent with another version than the kept one is
refused.  The requests of any number of passes are answered one at a time, in any order, with edits
of other clients in between; any request may fail, and the answer to an accepted write may be lost
(`PassSystem.Step`).

A workload that has a version of an earlier time is the workload of that time, and was not written
since (`PassSystem.Run.eq_of_version`).  A pass sends each workload with the version that it was
listed with.  So where a write is accepted, the listed workload is still the kept one
(`no_update_lost`).
-/

namespace TracingSidecar

/-! ### A store with versions -/

/-- Where a workload is kept. -/
abbrev Address := WorkloadKind × String × String

namespace Workload

def version? (w : Workload) : Option String := w.metadata.resourceVersion

/-- The workload as it is kept under a version. -/
def withVersion (version : String) (w : Workload) : Workload :=
  w.modifyMetadata fun m => { m with resourceVersion := some version }

end Workload

namespace StoredWorkload

def withVersion (version : String) (s : StoredWorkload) : StoredWorkload :=
  { s with workload := s.workload.withVersion version }

end StoredWorkload

/-- A store that gives out versions, and has given one to each workload that it keeps. -/
structure VersionedStore extends Store where
  issued : List String
  versioned : ∀ s ∈ workloads, ∃ version ∈ issued, s.workload.version? = some version

namespace VersionedStore

variable (store : VersionedStore)

/-- A workload is accepted in the place of the one at its address if it was made from the version
that is kept.  A workload without a version replaces any. -/
def Accepts (s : StoredWorkload) : Prop :=
  ∃ old ∈ store.workloads, old.address = s.address ∧
    (s.workload.version? = none ∨ s.workload.version? = old.workload.version?)

/-- Where a workload with a version is accepted, this version is kept. -/
theorem Accepts.current {store : VersionedStore} {s : StoredWorkload} (accepts : store.Accepts s)
    (version : String) (sent : s.workload.version? = some version) :
    ∃ current ∈ store.workloads, current.address = s.address ∧
      current.workload.version? = some version := by
  obtain ⟨current, kept, address, unversioned | same⟩ := accepts
  · rw [sent] at unversioned
    cases unversioned
  · exact ⟨current, kept, address, same.symm.trans sent⟩

/-- Keep a workload under a version, in the place of the one at its address. -/
def replace (s : StoredWorkload) (version : String) : VersionedStore where
  toStore := store.put (s.withVersion version)
  issued := version :: store.issued
  versioned := by
    intro other member
    rcases store.mem_put _ _ member with rfl | ⟨kept, -⟩
    · exact ⟨version, List.mem_cons_self, rfl⟩
    · obtain ⟨old, used, named⟩ := store.versioned other kept
      exact ⟨old, List.mem_cons_of_mem _ used, named⟩

/-- A store after a change at no more than one address: what is kept there has a version that was
never used, and everywhere else the same is kept. -/
structure ChangedAt (address : Option Address) (after : VersionedStore) : Prop where
  issued : store.issued ⊆ after.issued
  elsewhere : ∀ s, address ≠ some s.address → (s ∈ after.workloads ↔ s ∈ store.workloads)
  fresh : ∀ s ∈ after.workloads, address = some s.address →
    ∀ version ∈ store.issued, s.workload.version? ≠ some version

theorem changedAt_none : store.ChangedAt none store where
  issued := fun _ used => used
  elsewhere := fun _ _ => Iff.rfl
  fresh := by
    intro s _ nowhere
    cases nowhere

theorem changedAt_replace (s : StoredWorkload) (version : String)
    (fresh : version ∉ store.issued) :
    store.ChangedAt (some s.address) (store.replace s version) where
  issued := fun _ used => List.mem_cons_of_mem _ used
  elsewhere := by
    intro other different
    have apart : other.address ≠ s.address := fun same => different (congrArg some same.symm)
    constructor
    · intro member
      rcases store.mem_put _ _ member with rfl | ⟨kept, -⟩
      · exact absurd rfl apart
      · exact kept
    · exact fun kept => store.mem_put_of_ne _ _ kept apart
  fresh := by
    intro other member same used issued named
    rcases store.mem_put _ _ member with rfl | ⟨-, different⟩
    · cases named
      exact fresh issued
    · exact different (Option.some.inj same).symm

end VersionedStore

/-! ### Interleavings -/

/-- A store, and what each of some passes has still to do. -/
structure PassSystem (ι : Type) where
  store : VersionedStore
  passes : ι → Client (Except OperatorError PassReport)

/-- What happens to a system. -/
inductive Event (ι : Type) where
  /-- A request of a pass is answered; if it is an accepted write, with what the store keeps of
  it. -/
  | exchanged (pass : ι) (exchange : Exchange) (kept : Option StoredWorkload)
  /-- Another client changes the cluster, with what is kept at an address or without. -/
  | edited (address : Option Address)

namespace Event

variable {ι : Type}

/-- Where the store may keep something else afterwards. -/
def writes? : Event ι → Option Address
  | .exchanged _ _ kept => kept.map (·.address)
  | .edited address => address

/-- The exchange, if it is one of a given pass. -/
def exchangeOf? [DecidableEq ι] (p : ι) : Event ι → Option Exchange
  | .exchanged pass exchange _ => if pass = p then some exchange else none
  | .edited _ => none

end Event

/-- The exchanges of a pass. -/
def history {ι : Type} [DecidableEq ι] (p : ι) (trace : List (Event ι)) : List Exchange :=
  trace.filterMap (·.exchangeOf? p)

namespace PassSystem

variable {ι : Type} [DecidableEq ι]

/-- Passes that are about to begin, each with a context and a namespace of its own. -/
def start (store : VersionedStore) (contexts : ι → PassContext) (namespaces : ι → Namespace) :
    PassSystem ι where
  store
  passes p := reconcileNamespace (contexts p) (namespaces p)

/-- One request is answered, or another client does something. -/
inductive Step : PassSystem ι → Event ι → PassSystem ι → Prop
  /-- A request that reads is answered from the store. -/
  | read (store passes p request next) (running : passes p = .ask request next)
      (reads : request.method ≠ "PUT") :
      Step ⟨store, passes⟩ (.exchanged p ⟨request, (store.answer request).1⟩ none)
        ⟨store, Function.update passes p (next (store.answer request).1)⟩
  /-- A request fails, for whatever reason, and changes nothing. -/
  | failed (store passes p request next error) (running : passes p = .ask request next) :
      Step ⟨store, passes⟩ (.exchanged p ⟨request, .error error⟩ none)
        ⟨store, Function.update passes p (next (.error error))⟩
  /-- A write is accepted, whatever becomes of the answer. -/
  | accepted (store passes p namespaceName w next answer version)
      (running : passes p = .ask (.replaceWorkload namespaceName w.anyName w) next)
      (accepts : store.Accepts ⟨namespaceName, w⟩) (fresh : version ∉ store.issued) :
      Step ⟨store, passes⟩
        (.exchanged p ⟨.replaceWorkload namespaceName w.anyName w, answer⟩
          (some (StoredWorkload.withVersion version ⟨namespaceName, w⟩)))
        ⟨store.replace ⟨namespaceName, w⟩ version, Function.update passes p (next answer)⟩
  /-- Another client creates, replaces or removes a workload, or changes something else. -/
  | edited (store after passes address) (changed : store.ChangedAt address after) :
      Step ⟨store, passes⟩ (.edited address) ⟨after, passes⟩

/-- One event after the other. -/
inductive Run : PassSystem ι → List (Event ι) → PassSystem ι → Prop
  | refl (s : PassSystem ι) : Run s [] s
  | step {s middle t : PassSystem ι} {event : Event ι} {trace : List (Event ι)}
      (first : Step s event middle) (rest : Run middle trace t) : Run s (event :: trace) t

theorem Run.split {s t : PassSystem ι} (earlier later : List (Event ι))
    (run : Run s (earlier ++ later) t) : ∃ middle, Run s earlier middle ∧ Run middle later t := by
  induction earlier generalizing s with
  | nil => exact ⟨s, .refl s, run⟩
  | cons event rest ih =>
    cases run with
    | step first others =>
      obtain ⟨middle, before, after⟩ := ih others
      exact ⟨middle, .step first before, after⟩

/-! ### What the passes see -/

/-- An exchange takes one pass on, and no other. -/
theorem Step.passes {s t : PassSystem ι} {p : ι} {exchange : Exchange} {kept : Option StoredWorkload}
    (step : Step s (.exchanged p exchange kept) t) :
    ∃ next, s.passes p = .ask exchange.request next ∧
      t.passes = Function.update s.passes p (next exchange.answer) := by
  cases step with
  | read _ _ _ _ next running _ => exact ⟨next, running, rfl⟩
  | failed _ _ _ _ next _ running => exact ⟨next, running, rfl⟩
  | accepted _ _ _ _ _ next _ _ running _ _ => exact ⟨next, running, rfl⟩

variable {allowed : List Exchange → Request → Prop}
  {result : List Exchange → Except OperatorError PassReport → Prop}

theorem Step.ensures {s t : PassSystem ι} {event : Event ι} (step : Step s event t) (p : ι)
    (seen : List Exchange) (ensures : (s.passes p).Ensures allowed result seen) :
    (t.passes p).Ensures allowed result (seen ++ (event.exchangeOf? p).toList) := by
  cases event with
  | edited address =>
    cases step with
    | edited => simpa [Event.exchangeOf?] using ensures
  | exchanged q exchange kept =>
    obtain ⟨next, running, advanced⟩ := step.passes
    by_cases same : q = p
    · subst same
      rw [running] at ensures
      simpa [Event.exchangeOf?, advanced] using ensures.2 exchange.answer
    · simpa [Event.exchangeOf?, advanced, same, Function.update_of_ne (Ne.symm same)] using ensures

/-- Whatever goes on around it, a pass ensures what it ensures for any answers. -/
theorem Run.ensures {s t : PassSystem ι} {trace : List (Event ι)} (run : Run s trace t) (p : ι)
    (seen : List Exchange) (ensures : (s.passes p).Ensures allowed result seen) :
    (t.passes p).Ensures allowed result (seen ++ history p trace) := by
  induction run generalizing seen with
  | refl s => simpa [history] using ensures
  | @step s middle t event trace first rest ih =>
    have later := ih _ (first.ensures p seen ensures)
    have whole : history p (event :: trace) = (event.exchangeOf? p).toList ++ history p trace := by
      unfold history
      rw [List.filterMap_cons]
      cases event.exchangeOf? p <;> rfl
    rw [whole, ← List.append_assoc]
    exact later

/-- Whatever goes on around it, all that a pass writes are evaluations of what it has listed. -/
theorem Run.writesEvaluations {store : VersionedStore} {contexts : ι → PassContext}
    {namespaces : ι → Namespace} {trace : List (Event ι)} {s t : PassSystem ι} {p : ι}
    {exchange : Exchange} {kept : Option StoredWorkload}
    (run : Run (start store contexts namespaces) trace s)
    (step : Step s (.exchanged p exchange kept) t) :
    WritesEvaluations (contexts p).config (namespaces p) (history p trace) exchange.request := by
  have ensures := run.ensures p [] (reconcileNamespace_ensures (contexts p) (namespaces p))
  obtain ⟨next, running, -⟩ := step.passes
  rw [running, List.nil_append] at ensures
  exact ensures.1

theorem exchangeOf?_eq_some {p : ι} {event : Event ι} {exchange : Exchange}
    (own : event.exchangeOf? p = some exchange) : ∃ kept, event = .exchanged p exchange kept := by
  cases event with
  | edited address => cases own
  | exchanged q other kept =>
    simp only [Event.exchangeOf?, Option.ite_none_right_eq_some, Option.some.injEq] at own
    obtain ⟨rfl, rfl⟩ := own
    exact ⟨kept, rfl⟩

/-- Workloads that a pass has seen in a list were kept at that time. -/
theorem Step.listed {s t : PassSystem ι} {p : ι} {kind : WorkloadKind} {name : String}
    {found : List Workload} {kept : Option StoredWorkload}
    (step : Step s (.exchanged p ⟨.listWorkloads kind (some name), .ok found⟩ kept) t) :
    kept = none ∧ t.store = s.store ∧
      ∀ w ∈ found, ⟨name, w⟩ ∈ s.store.workloads ∧ w.kind = kind := by
  cases step with
  | read store =>
    exact ⟨rfl, rfl, fun w member => (store.mem_listWorkloads kind name w).1 member⟩

/-- A list that a pass has seen was answered at some point of the run, with what was kept then. -/
theorem Run.listed {s t : PassSystem ι} {trace : List (Event ι)} (run : Run s trace t) {p : ι}
    {kind : WorkloadKind} {name : String} {found : List Workload}
    (asked : ⟨.listWorkloads kind (some name), .ok found⟩ ∈ history p trace) :
    ∃ earlier later middle,
      trace = earlier ++ .exchanged p ⟨.listWorkloads kind (some name), .ok found⟩ none :: later ∧
      Run middle later t ∧ ∀ w ∈ found, ⟨name, w⟩ ∈ middle.store.workloads ∧ w.kind = kind := by
  obtain ⟨event, member, own⟩ := List.mem_filterMap.1 asked
  obtain ⟨kept, rfl⟩ := exchangeOf?_eq_some own
  obtain ⟨earlier, later, rfl⟩ := List.append_of_mem member
  obtain ⟨before, -, listing⟩ := run.split earlier _
  cases listing with
  | @step _ middle _ _ _ first rest =>
    obtain ⟨rfl, same, stored⟩ := first.listed
    rw [← same] at stored
    exact ⟨earlier, later, middle, rfl, rest, stored⟩

/-! ### What the store keeps -/

theorem Step.changedAt {s t : PassSystem ι} {event : Event ι} (step : Step s event t) :
    s.store.ChangedAt event.writes? t.store := by
  cases step with
  | read store => exact store.changedAt_none
  | failed store => exact store.changedAt_none
  | accepted store _ _ _ _ _ _ version _ _ fresh => exact store.changedAt_replace _ version fresh
  | edited _ _ _ _ changed => exact changed

/-- A workload that is kept after a run was kept before and is unwritten since, or has none of the
versions of before. -/
theorem Run.kept_or_fresh {s t : PassSystem ι} {trace : List (Event ι)} (run : Run s trace t)
    (w : StoredWorkload) (member : w ∈ t.store.workloads) :
    (w ∈ s.store.workloads ∧ ∀ event ∈ trace, event.writes? ≠ some w.address) ∨
      ∀ version ∈ s.store.issued, w.workload.version? ≠ some version := by
  induction run with
  | refl s => exact Or.inl ⟨member, fun _ none_happened => absurd none_happened List.not_mem_nil⟩
  | @step s middle t event trace first rest ih =>
    have changed := first.changedAt
    rcases ih member with ⟨there, unwritten⟩ | fresh
    · by_cases written : event.writes? = some w.address
      · exact Or.inr (changed.fresh w there written)
      · refine Or.inl ⟨(changed.elsewhere w written).1 there, ?_⟩
        exact List.forall_mem_cons.2 ⟨written, unwritten⟩
    · exact Or.inr fun version used => fresh version (changed.issued used)

/-- A workload of the version of an earlier one is that one, and was not written since. -/
theorem Run.eq_of_version {s t : PassSystem ι} {trace : List (Event ι)} (run : Run s trace t)
    (old new : StoredWorkload) (stored : old ∈ s.store.workloads)
    (member : new ∈ t.store.workloads) (address : new.address = old.address)
    (version : new.workload.version? = old.workload.version?) :
    new = old ∧ ∀ event ∈ trace, event.writes? ≠ some old.address := by
  rcases run.kept_or_fresh new member with ⟨there, unwritten⟩ | fresh
  · rw [address] at unwritten
    exact ⟨s.store.eq_of_address new old there stored address, unwritten⟩
  · obtain ⟨used, issued, named⟩ := s.store.versioned old stored
    exact absurd (version.trans named) (fresh used issued)

end PassSystem

/-! ### Accepted writes -/

/-- An accepted write of a pass that has seen some exchanges puts the evaluation of a workload, under
a new version, in the place of that workload, and changes nothing else. -/
structure ReplacesByEvaluation (config : InjectorConfig) (ns : Namespace) (seen : List Exchange)
    (before after : VersionedStore) (old : Workload) (request : Request) (kept : StoredWorkload) :
    Prop where
  stored : ⟨ns.anyName, old⟩ ∈ before.workloads
  evaluated : request =
    let evaluated := (evaluate config ns (candidatesIn seen) old).2
    .replaceWorkload ns.anyName evaluated.anyName evaluated
  versioned : ∃ version, version ∉ before.issued ∧ kept =
    ⟨ns.anyName, (evaluate config ns (candidatesIn seen) old).2.withVersion version⟩
  address : kept.address = StoredWorkload.address ⟨ns.anyName, old⟩
  store : after.toStore = before.put kept

/-- A workload was listed by a pass, and nothing was written at its address since. -/
def UnwrittenSinceListed {ι : Type} (p : ι) (namespaceName : String) (w : Workload)
    (trace : List (Event ι)) : Prop :=
  ∃ earlier found later,
    trace = earlier ++
      .exchanged p ⟨.listWorkloads w.kind (some namespaceName), .ok found⟩ none :: later ∧
    w ∈ found ∧
    ∀ event ∈ later, event.writes? ≠ some (StoredWorkload.address ⟨namespaceName, w⟩)

/-- No update is lost.  However the requests of passes are interleaved with each other and with the
edits of other clients: where a write of a pass is accepted, it replaces the workload that is kept by
the evaluation of just this workload, with the namespace and the instances that the pass has read;
and nothing was written to the workload since the pass listed it. -/
theorem no_update_lost {ι : Type} [DecidableEq ι] (contexts : ι → PassContext)
    (namespaces : ι → Namespace) (store : VersionedStore) (trace : List (Event ι))
    (reached after : PassSystem ι) (p : ι) (exchange : Exchange) (kept : StoredWorkload)
    (run : PassSystem.Run (.start store contexts namespaces) trace reached)
    (accepted : PassSystem.Step reached (.exchanged p exchange (some kept)) after) :
    ∃ old, ReplacesByEvaluation (contexts p).config (namespaces p) (history p trace) reached.store
        after.store old exchange.request kept ∧
      UnwrittenSinceListed p (namespaces p).anyName old trace := by
  have allowed := run.writesEvaluations accepted
  cases accepted with
  | accepted before passes _ namespaceName w next answer version running accepts fresh =>
    obtain ⟨kind, found, old, asked, member, request⟩ := allowed rfl
    rw [Request.replaceWorkload.injEq] at request
    obtain ⟨rfl, -, rfl⟩ := request
    obtain ⟨earlier, later, middle, whole, since, stored⟩ := run.listed asked
    obtain ⟨old_stored, rfl⟩ := stored old member
    have address := StoredWorkload.address_evaluated (contexts p).config (namespaces p)
      (candidatesIn (history p trace)) ⟨(namespaces p).anyName, old⟩
    -- The evaluation has the version that was listed, so this version is still kept.
    obtain ⟨used, -, named⟩ := middle.store.versioned _ old_stored
    have sent := (resourceVersion_evaluate (contexts p).config (namespaces p)
      (candidatesIn (history p trace)) old).trans named
    obtain ⟨current, current_stored, same_address, still_named⟩ := accepts.current used sent
    obtain ⟨rfl, unwritten⟩ := since.eq_of_version _ current old_stored current_stored
      (same_address.trans address) (still_named.trans named.symm)
    refine ⟨old, ?_, earlier, found, later, whole, member, unwritten⟩
    exact ⟨current_stored, rfl, ⟨_, fresh, rfl⟩, address, rfl⟩

/-- A deployment of a namespace that asks for a sidecar, as it is kept under a version. -/
def Sample.release (version image : String) : Workload where
  metadata :=
    { name := some "shop", namespaceName := some "store", resourceVersion := some version }
  body := .deployment (some
    { settings := {}
      template := { spec := some { containers := [{ name := "web", image := some image }] } } })

/-- A store that keeps nothing but a release, after some older ones. -/
def Sample.released (version image : String) (older : List String) : VersionedStore where
  instances := [instanceAt "tracing" "prod"]
  namespaces := [asking "true"]
  workloads := [⟨"store", release version image⟩]
  distinct := List.nodup_singleton _
  issued := version :: older
  versioned := by
    intro s member
    rw [List.mem_singleton.1 member]
    exact ⟨version, List.mem_cons_self, rfl⟩

theorem Sample.changedAt_released :
    (released "1" "shop:1" []).ChangedAt (some (.deployment, "store", "shop"))
      (released "2" "shop:2" ["1"]) where
  issued := List.subset_cons_self _ _
  elsewhere := by
    intro s different
    have absent (version image : String) :
        s ∉ [(⟨"store", release version image⟩ : StoredWorkload)] := by
      intro member
      rw [List.mem_singleton.1 member] at different
      exact different rfl
    exact iff_of_false (absent "2" "shop:2") (absent "1" "shop:1")
  fresh := by
    intro s member _ version used
    rw [List.mem_singleton.1 member, List.mem_singleton.1 used]
    decide

/-- Two passes that are about to begin. -/
def Sample.racing : PassSystem Bool :=
  .start (released "1" "shop:1" []) (fun _ => {}) fun _ => asking "true"

/-- Two passes race with an edit between their lists.  The write of the first is refused; that of the
second is accepted, and keeps what was edited. -/
theorem no_update_lost_race :
    ∃ trace reached after exchange kept, PassSystem.Run Sample.racing trace reached ∧
      PassSystem.Step reached (.exchanged false exchange (some kept)) after ∧
      .edited (some kept.address) ∈ trace ∧
      ∃ old, ReplacesByEvaluation {} (Sample.asking "true") (history false trace) reached.store
          after.store old exchange.request kept ∧
        UnwrittenSinceListed false "store" old trace := by
  let evaluated := (evaluate {} (Sample.asking "true") [Sample.instanceAt "tracing" "prod"]
    (Sample.release "2" "shop:2")).2
  -- Each pass lists instances and deployments; then the first one tries to write.
  have run := PassSystem.Run.step
    (.read _ Sample.racing.passes true (.listInstances none) _ rfl (by decide))
    <| .step (.read _ _ true (.listWorkloads .deployment (some "store")) _ rfl (by decide))
    <| .step (.edited _ _ _ _ Sample.changedAt_released)
    <| .step (.read _ _ false (.listInstances none) _ rfl (by decide))
    <| .step (.read _ _ false (.listWorkloads .deployment (some "store")) _ rfl (by decide))
    <| .step (.failed _ _ true _ _ (.status 409 "Conflict" "shop has been changed") rfl)
    <| .refl _
  have raced : ∃ trace passes next, PassSystem.Run Sample.racing trace
        ⟨Sample.released "2" "shop:2" ["1"], passes⟩ ∧
      .edited (some (.deployment, "store", "shop")) ∈ trace ∧
      passes false = .ask (.replaceWorkload "store" evaluated.anyName evaluated) next :=
    ⟨_, _, _, run, by simp, rfl⟩
  obtain ⟨trace, passes, next, reached, member, running⟩ := raced
  have accepts : (Sample.released "2" "shop:2" ["1"]).Accepts ⟨"store", evaluated⟩ :=
    ⟨_, List.mem_singleton.2 rfl, rfl, Or.inr rfl⟩
  have accepted := PassSystem.Step.accepted _ passes false "store" evaluated next
    (.ok evaluated) "3" running accepts (by decide)
  exact ⟨trace, _, _, _, _, reached, accepted, member,
    no_update_lost _ _ _ trace _ _ false _ _ reached accepted⟩

end TracingSidecar
