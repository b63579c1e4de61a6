import TracingSidecar.Proofs.Api.Exchanges
import TracingSidecar.Reconcile.Namespace

/-!
# What a pass asks for

Whatever a pass over a namespace is answered, all that it writes are evaluations: of a workload as
it was listed in this pass, with the instances that were listed before (`reconcileNamespace_ensures`).
Once the instances are listed, no part of the pass lists any more of them (`Continues`), so all of
them evaluate with the same ones.

What a part of a pass asks for is of a certain sort: the instances are asked for first, then
workloads of the namespace are, and workloads of it are written (`Request.IsOfPass`).
-/

namespace TracingSidecar

/-- The instances in an answer, if instances were asked for. -/
def Exchange.instances : Exchange → List TracingInstance
  | ⟨.listInstances _, .ok found⟩ => found
  | _ => []

/-- The instances that workloads may be bound to, as they were listed. -/
def candidatesIn (seen : List Exchange) : List TracingInstance :=
  (seen.flatMap (·.instances)).filter fun i => !i.metadata.isTerminating

/-- A request stores the evaluation of a workload that was listed, with the instances that were. -/
def StoresEvaluation (config : InjectorConfig) (ns : Namespace) (seen : List Exchange)
    (request : Request) : Prop :=
  ∃ kind found listed, ⟨.listWorkloads kind (some ns.anyName), .ok found⟩ ∈ seen ∧ listed ∈ found ∧
    let evaluated := (evaluate config ns (candidatesIn seen) listed).2
    request = .replaceWorkload ns.anyName evaluated.anyName evaluated

/-- A request that writes stores an evaluation. -/
def WritesEvaluations (config : InjectorConfig) (ns : Namespace) (seen : List Exchange)
    (request : Request) : Prop :=
  request.method = "PUT" → StoresEvaluation config ns seen request

/-- More was asked meanwhile, but no instances were listed. -/
def Continues (seen later : List Exchange) : Prop :=
  ∃ more, later = seen ++ more ∧ ∀ e ∈ more, e.instances = []

namespace Continues

theorem refl (seen : List Exchange) : Continues seen seen :=
  ⟨[], (List.append_nil seen).symm, fun _ none_asked => absurd none_asked List.not_mem_nil⟩

theorem trans {first second third : List Exchange} (earlier : Continues first second)
    (later : Continues second third) : Continues first third := by
  obtain ⟨more, rfl, none_listed⟩ := earlier
  obtain ⟨rest, rfl, none_either⟩ := later
  refine ⟨more ++ rest, List.append_assoc _ _ _, ?_⟩
  intro e member
  exact (List.mem_append.1 member).elim (none_listed e) (none_either e)

theorem exchange (seen : List Exchange) (e : Exchange) (other : e.instances = []) :
    Continues seen (seen ++ [e]) :=
  ⟨[e], rfl, fun _ member => by rw [List.mem_singleton.1 member, other]⟩

theorem candidatesIn {seen later : List Exchange} (continues : Continues seen later) :
    candidatesIn later = candidatesIn seen := by
  obtain ⟨more, rfl, none_listed⟩ := continues
  have nothing : more.flatMap (·.instances) = [] := List.flatMap_eq_nil_iff.2 none_listed
  simp [TracingSidecar.candidatesIn, nothing]

theorem mem {seen later : List Exchange} (continues : Continues seen later) {e : Exchange}
    (member : e ∈ seen) : e ∈ later := by
  obtain ⟨more, rfl, -⟩ := continues
  exact List.mem_append_left _ member

end Continues

section Pass

variable (config : InjectorConfig) (ns : Namespace)

/-- A pass may read whatever it likes. -/
theorem send_ensures (seen : List Exchange) (request : Request) (reads : request.method ≠ "PUT") :
    (Client.send request).Ensures (WritesEvaluations config ns)
      (fun later answer => later = seen ++ [⟨request, answer⟩]) seen :=
  Client.ensures_send (fun writes => absurd writes reads) fun _ => rfl

/-! ### Listing the instances -/

theorem instancesOf_ensures (names : List String) (seen : List Exchange) :
    (instancesOf names).Ensures (WritesEvaluations config ns)
      (fun later result => ∀ found, result = .ok found →
        later.flatMap (·.instances) = seen.flatMap (·.instances) ++ found) seen := by
  induction names generalizing seen with
  | nil =>
    apply Client.ensures_pure
    rintro found ⟨⟩
    exact (List.append_nil _).symm
  | cons name rest ih =>
    apply Client.ensures_andThen _ (send_ensures config ns seen _ (by simp [Request.method]))
    rintro later (error | found) rfl
    · exact Client.ensures_pure _ nofun
    apply Client.ensures_andThen _ (ih _)
    rintro later (error | more) listed
    · exact Client.ensures_pure _ nofun
    · apply Client.ensures_pure
      rintro all ⟨⟩
      rw [listed more rfl, List.flatMap_append, List.flatMap_singleton, List.append_assoc]
      rfl

/-- The instances that a pass goes on with are those that it has listed. -/
theorem listInstances_ensures (watched : List String) :
    (listInstances watched).Ensures (WritesEvaluations config ns)
      (fun later result => ∀ instances, result = .ok instances →
        candidatesIn later = instances) [] := by
  have filtered (later : List Exchange) (result : Except ApiError (List TracingInstance))
      (listed : ∀ found, result = .ok found → later.flatMap (·.instances) = found) :
      Client.Ensures (WritesEvaluations config ns)
        (fun later result => ∀ instances, result = .ok instances → candidatesIn later = instances)
        (pure (result.map fun found => found.filter fun i => !i.metadata.isTerminating)) later := by
    apply Client.ensures_pure
    cases result with
    | error error => nofun
    | ok found =>
      rintro instances ⟨⟩
      rw [candidatesIn, listed found rfl]
  unfold listInstances
  dsimp only
  split
  · apply Client.ensures_andThen _ (send_ensures config ns [] _ (by simp [Request.method]))
    rintro later answer rfl
    apply filtered
    rintro found rfl
    exact List.append_nil found
  · exact Client.ensures_andThen _ (instancesOf_ensures config ns watched []) filtered

/-! ### Going over the workloads -/

variable (instances : List TracingInstance)

/-- A step stores the evaluation of its workload or nothing. -/
theorem passWorkload_ensures (kind : WorkloadKind) (found : List Workload) (w : Workload)
    (seen : List Exchange) (candidates : candidatesIn seen = instances)
    (listed : ⟨.listWorkloads kind (some ns.anyName), .ok found⟩ ∈ seen) (member : w ∈ found) :
    (passWorkload config ns instances w).Ensures (WritesEvaluations config ns)
      (fun later _ => Continues seen later) seen := by
  have stores (evaluated : Workload) (result : (evaluate config ns instances w).2 = evaluated) :
      (persist ns.anyName evaluated).Ensures (WritesEvaluations config ns)
        (fun later _ => Continues seen later) seen := by
    apply Client.ensures_andThen fun later _ => Continues seen later
    · apply Client.ensures_sendNamed _ (.refl seen)
      · exact fun _ => .exchange seen _ rfl
      · intro _
        refine ⟨kind, found, w, listed, member, ?_⟩
        rw [candidates, result]
    · exact fun later _ continues => Client.ensures_pure _ continues
  unfold passWorkload
  split
  next evaluation evaluated result =>
    split
    · apply Client.ensures_andThen _ (stores evaluated (congrArg Prod.snd result))
      rintro later (error | ⟨⟩) continues <;> exact Client.ensures_pure _ continues
    · exact Client.ensures_pure _ (.refl seen)

theorem passWorkloads_ensures (kind : WorkloadKind) (found workloads : List Workload)
    (seen : List Exchange) (candidates : candidatesIn seen = instances)
    (listed : ⟨.listWorkloads kind (some ns.anyName), .ok found⟩ ∈ seen)
    (members : ∀ w ∈ workloads, w ∈ found) :
    (passWorkloads config ns instances workloads).Ensures (WritesEvaluations config ns)
      (fun later _ => Continues seen later) seen := by
  induction workloads generalizing seen with
  | nil => exact Client.ensures_pure _ (.refl seen)
  | cons w rest ih =>
    apply Client.ensures_andThen _ (passWorkload_ensures config ns instances kind found w seen
      candidates listed (members w List.mem_cons_self))
    intro middle _ first
    apply Client.ensures_andThen _ (ih middle (first.candidatesIn.trans candidates)
      (first.mem listed) fun other member => members other (List.mem_cons_of_mem _ member))
    exact fun later _ second => Client.ensures_pure _ (first.trans second)

theorem passKind_ensures (kind : WorkloadKind) (seen : List Exchange)
    (candidates : candidatesIn seen = instances) :
    (passKind config ns instances kind).Ensures (WritesEvaluations config ns)
      (fun later _ => Continues seen later) seen := by
  apply Client.ensures_andThen _ (send_ensures config ns seen _ (by simp [Request.method]))
  rintro later answer rfl
  have continues : Continues seen (seen ++ [⟨.listWorkloads kind (some ns.anyName), answer⟩]) :=
    .exchange seen _ rfl
  cases answer with
  | error error => exact Client.ensures_pure _ continues
  | ok found =>
    have goes_over := passWorkloads_ensures config ns instances kind found found _
      (continues.candidatesIn.trans candidates)
      (List.mem_append_right seen (List.mem_singleton.2 rfl)) fun _ member => member
    exact goes_over.mono fun _ _ later => continues.trans later

theorem passOver_ensures (kinds : List WorkloadKind) (seen : List Exchange)
    (candidates : candidatesIn seen = instances) :
    (passOver config ns instances kinds).Ensures (WritesEvaluations config ns)
      (fun later _ => Continues seen later) seen := by
  induction kinds generalizing seen with
  | nil => exact Client.ensures_pure _ (.refl seen)
  | cons kind rest ih =>
    apply Client.ensures_andThen _ (passKind_ensures config ns instances kind seen candidates)
    intro middle _ first
    apply Client.ensures_andThen _ (ih middle (first.candidatesIn.trans candidates))
    exact fun later _ second => Client.ensures_pure _ (first.trans second)

end Pass

/-! ### Sorts of requests -/

namespace Request

/-- A list of instances. -/
inductive ListsInstances : Request → Prop
  | intro (namespaceName : Option String) : ListsInstances (.listInstances namespaceName)

/-- A write of a workload of a namespace under its own name. -/
inductive WritesTo (namespaceName : String) : Request → Prop
  | intro (w : Workload) :
      WritesTo namespaceName (.replaceWorkload namespaceName w.anyName w)

theorem WritesTo.method {namespaceName : String} {request : Request}
    (writes : request.WritesTo namespaceName) : request.method = "PUT" := by
  cases writes
  rfl

/-- A list of workloads of a namespace, or a write of one. -/
inductive ConcernsWorkloads (namespaceName : String) : Request → Prop
  | list (kind : WorkloadKind) :
      ConcernsWorkloads namespaceName (.listWorkloads kind (some namespaceName))
  | write (request : Request) (writes : request.WritesTo namespaceName) :
      ConcernsWorkloads namespaceName request

/-- What a pass over a namespace may ask for. -/
def IsOfPass (namespaceName : String) (request : Request) : Prop :=
  request.ListsInstances ∨ request.ConcernsWorkloads namespaceName

/-- What a visit of a namespace may ask for: the namespace, and what a pass over it does. -/
def IsOfVisit (namespaceName : String) (request : Request) : Prop :=
  request = .getNamespace namespaceName ∨ request.IsOfPass namespaceName

/-- What a visit writes are workloads of its namespace. -/
theorem IsOfVisit.writesTo {namespaceName : String} {request : Request}
    (of_visit : request.IsOfVisit namespaceName) (writes : request.method = "PUT") :
    request.WritesTo namespaceName := by
  rcases of_visit with rfl | lists | concerns
  · simp [method] at writes
  · cases lists
    simp [method] at writes
  · cases concerns with
    | list kind => simp [method] at writes
    | write _ writes_to => exact writes_to

end Request

/-- The writes that were sent, whether they failed or not. -/
def writesIn (seen : List Exchange) : List Request :=
  (seen.map (·.request)).filter (·.method = "PUT")

theorem mem_writesIn (seen : List Exchange) (request : Request) :
    request ∈ writesIn seen ↔ (∃ e ∈ seen, e.request = request) ∧ request.method = "PUT" := by
  simp [writesIn]

theorem writesIn_eq_nil (seen : List Exchange) (reads : ∀ e ∈ seen, e.request.method ≠ "PUT") :
    writesIn seen = [] := by
  simpa [writesIn, List.filter_map] using reads

theorem instancesOf_asksOnly (names : List String) :
    (instancesOf names).AsksOnly Request.ListsInstances := by
  induction names with
  | nil => exact Client.asksOnly_pure _
  | cons name rest ih =>
    refine Client.asksOnly_andThen (Client.asksOnly_send (.intro _)) ?_
    rintro (error | found)
    · exact Client.asksOnly_pure _
    refine Client.asksOnly_andThen ih ?_
    rintro (error | more) <;> exact Client.asksOnly_pure _

/-- Instances are listed by asking for lists of instances only. -/
theorem listInstances_asksOnly (watched : List String) :
    (listInstances watched).AsksOnly Request.ListsInstances := by
  unfold listInstances
  dsimp only
  split
  · exact Client.asksOnly_andThen (Client.asksOnly_send (.intro _)) fun _ => Client.asksOnly_pure _
  · exact Client.asksOnly_andThen (instancesOf_asksOnly watched) fun _ => Client.asksOnly_pure _

theorem instancesOf_givesUp (names : List String) : (instancesOf names).GivesUp := by
  induction names with
  | nil => exact Client.givesUp_pure _
  | cons name rest ih =>
    refine Client.givesUp_andThen (Client.givesUp_send _) (fun _ => rfl) fun found => ?_
    exact Client.givesUp_andThen ih (fun _ => rfl) fun more => Client.givesUp_pure _

/-- One failed list of instances fails the whole. -/
theorem listInstances_givesUp (watched : List String) : (listInstances watched).GivesUp := by
  unfold listInstances
  dsimp only
  split
  · exact Client.givesUp_andThen (Client.givesUp_send _) (fun _ => rfl)
      fun found => Client.givesUp_pure _
  · exact Client.givesUp_andThen (instancesOf_givesUp watched) (fun _ => rfl)
      fun found => Client.givesUp_pure _

/-- For a workload that was listed, a pass may send a write of it and nothing else. -/
theorem passWorkload_asksOnly (config : InjectorConfig) (ns : Namespace)
    (instances : List TracingInstance) (w : Workload) :
    (passWorkload config ns instances w).AsksOnly (Request.WritesTo ns.anyName) := by
  have stores (evaluated : Workload) :
      (persist ns.anyName evaluated).AsksOnly (Request.WritesTo ns.anyName) :=
    Client.asksOnly_andThen (Client.asksOnly_sendNamed _ (.intro evaluated))
      fun _ => Client.asksOnly_pure _
  unfold passWorkload
  split
  split
  · refine Client.asksOnly_andThen (stores _) ?_
    rintro (error | stored) <;> exact Client.asksOnly_pure _
  · exact Client.asksOnly_pure _

theorem passWorkloads_asksOnly (config : InjectorConfig) (ns : Namespace)
    (instances : List TracingInstance) (workloads : List Workload) :
    (passWorkloads config ns instances workloads).AsksOnly (Request.WritesTo ns.anyName) := by
  induction workloads with
  | nil => exact Client.asksOnly_pure _
  | cons w rest ih =>
    refine Client.asksOnly_andThen (passWorkload_asksOnly config ns instances w) fun _ => ?_
    exact Client.asksOnly_andThen ih fun _ => Client.asksOnly_pure _

/-- Going over the kinds, a pass asks for nothing but workloads of its namespace. -/
theorem passOver_asksOnly (config : InjectorConfig) (ns : Namespace)
    (instances : List TracingInstance) (kinds : List WorkloadKind) :
    (passOver config ns instances kinds).AsksOnly (Request.ConcernsWorkloads ns.anyName) := by
  induction kinds with
  | nil => exact Client.asksOnly_pure _
  | cons kind rest ih =>
    have first : (passKind config ns instances kind).AsksOnly
        (Request.ConcernsWorkloads ns.anyName) := by
      refine Client.asksOnly_andThen (Client.asksOnly_send (.list kind)) ?_
      rintro (error | found)
      · exact Client.asksOnly_pure _
      · exact (passWorkloads_asksOnly config ns instances found).mono fun _ => .write _
    refine Client.asksOnly_andThen first fun _ => ?_
    exact Client.asksOnly_andThen ih fun _ => Client.asksOnly_pure _

theorem reconcileNamespace_asksOnly (context : PassContext) (ns : Namespace) :
    (reconcileNamespace context ns).AsksOnly (Request.IsOfPass ns.anyName) := by
  refine Client.asksOnly_andThen ((listInstances_asksOnly _).mono fun _ => Or.inl) ?_
  rintro (error | instances)
  · exact Client.asksOnly_pure _
  have goes_over := passOver_asksOnly context.config ns instances passKinds
  refine Client.asksOnly_andThen (goes_over.mono fun _ => Or.inr) fun report => ?_
  split <;> exact Client.asksOnly_pure _

/-! ### A whole pass -/

/-- All that a pass over a namespace writes are evaluations of what it has listed. -/
theorem reconcileNamespace_ensures (context : PassContext) (ns : Namespace) :
    (reconcileNamespace context ns).Ensures (WritesEvaluations context.config ns)
      (fun _ _ => True) [] := by
  apply Client.ensures_andThen _ (listInstances_ensures context.config ns context.watched)
  rintro later (error | instances) listed
  · exact Client.ensures_pure _ trivial
  apply Client.ensures_andThen _ (passOver_ensures context.config ns instances passKinds later
    (listed instances rfl))
  intro last report _
  split <;> exact Client.ensures_pure _ trivial

end TracingSidecar
