import TracingSidecar.Proofs.Injection.FixedPoint
import TracingSidecar.Proofs.Reconcile.Store
import TracingSidecar.Reconcile.Namespace

/-!
# The parts of a pass

What the parts of a pass over a namespace do to a store, whatever fails on the way.  Each of them
stores evaluated workloads and nothing else, and evaluating a workload twice is evaluating it once;
so the store that a complete pass would leave stays the same (`Toward`).  A part without failures
leaves nothing to do for the workloads that it goes over (`PassedOver`), and where nothing is left
to do, it only reads.
-/

namespace TracingSidecar

namespace PassReport

theorem empty_add (a : PassReport) : {} + a = a :=
  congr (congr (congrArg PassReport.mk (Nat.zero_add _)) (Nat.zero_add _)) (Nat.zero_add _)

theorem evaluated_add (a b : PassReport) : (a + b).evaluated = a.evaluated + b.evaluated := rfl

theorem failed_add (a b : PassReport) : (a + b).failed = a.failed + b.failed := rfl

theorem persisted_add (a b : PassReport) : (a + b).persisted = a.persisted + b.persisted := rfl

end PassReport

theorem ne_pod_of_passKinds (kind : WorkloadKind) (passed : kind ∈ passKinds) : kind ≠ .pod := by
  rintro rfl
  exact absurd passed (by decide)

section Pass

variable (config : InjectorConfig) (ns : Namespace) (instances : List TracingInstance)

/-! ### What a complete pass leaves -/

namespace StoredWorkload

/-- The workload in the store after its evaluation. -/
def evaluated (s : StoredWorkload) : StoredWorkload :=
  { s with workload := (evaluate config ns instances s.workload).2 }

/-- Whether a pass goes over a workload. -/
def InScope (s : StoredWorkload) : Prop :=
  s.namespaceName = ns.anyName ∧ s.workload.kind ∈ passKinds

instance (s : StoredWorkload) : Decidable (s.InScope ns) := inferInstanceAs (Decidable (_ ∧ _))

/-- What a complete pass makes of a workload. -/
def settled (s : StoredWorkload) : StoredWorkload :=
  if s.InScope ns then s.evaluated config ns instances else s

theorem address_evaluated (s : StoredWorkload) :
    (s.evaluated config ns instances).address = s.address := by
  obtain ⟨kind, name⟩ := identity_evaluate config ns instances s.workload
  simp only [address, evaluated, kind, name]

theorem inScope_evaluated (s : StoredWorkload) (inside : s.InScope ns) :
    (s.evaluated config ns instances).InScope ns := by
  have kind := (identity_evaluate config ns instances s.workload).1
  refine ⟨inside.1, ?_⟩
  rw [evaluated, kind]
  exact inside.2

theorem address_settled (s : StoredWorkload) :
    (s.settled config ns instances).address = s.address := by
  unfold settled
  split
  next => exact address_evaluated config ns instances s
  next => rfl

/-- An evaluated workload is steady, for no pod is passed over. -/
theorem steady_evaluated (s : StoredWorkload) (inside : s.InScope ns)
    (plain : s.workload.PlainNames) :
    (s.evaluated config ns instances).workload.Steady config ns instances :=
  steady_evaluate config ns instances s.workload plain fun pod =>
    absurd pod (ne_pod_of_passKinds _ inside.2)

theorem evaluated_of_steady (s : StoredWorkload)
    (steady : s.workload.Steady config ns instances) : s.evaluated config ns instances = s := by
  obtain ⟨evaluation, -, result⟩ := steady
  unfold evaluated
  rw [result]

end StoredWorkload

namespace Store

/-- The store after a complete pass. -/
def settle (store : Store) : Store :=
  store.mapWorkloads (·.settled config ns instances)
    (StoredWorkload.address_settled config ns instances)

/-- All workloads have names, and no comma in them. -/
def Sound (store : Store) : Prop :=
  ∀ s ∈ store.workloads, s.workload.PlainNames ∧ s.workload.anyName ≠ ""

/-- Storing an evaluated workload anticipates a part of the complete pass. -/
theorem settle_put_evaluated (store : Store) (sound : store.Sound) (s : StoredWorkload)
    (stored : s ∈ store.workloads) (inside : s.InScope ns) :
    (store.put (s.evaluated config ns instances)).settle config ns instances =
      store.settle config ns instances := by
  have steady := s.steady_evaluated config ns instances inside (sound s stored).1
  have once := StoredWorkload.evaluated_of_steady config ns instances _ steady
  have still_inside := s.inScope_evaluated config ns instances inside
  have same : ∀ old ∈ store.workloads,
      (overwrite (s.evaluated config ns instances) old).settled config ns instances =
        old.settled config ns instances := by
    intro old old_stored
    unfold overwrite
    split
    next at_address =>
      rw [StoredWorkload.address_evaluated] at at_address
      have equal := store.eq_of_address old s old_stored stored at_address
      -- Only the workload itself is kept at its address: evaluated twice, or once.
      rw [equal, StoredWorkload.settled, StoredWorkload.settled, if_pos still_inside,
        if_pos inside, once]
    next => rfl
  refine Store.ext (x := settle config ns instances (put store _)) rfl rfl ?_
  exact List.map_map.trans (List.map_congr_left same)

theorem sound_put_evaluated (store : Store) (sound : store.Sound) (s : StoredWorkload)
    (stored : s ∈ store.workloads) : (store.put (s.evaluated config ns instances)).Sound := by
  intro other member
  rcases store.mem_put _ other member with written | ⟨kept, -⟩
  · obtain ⟨plain, named⟩ := sound s stored
    rw [written]
    refine ⟨plainNames_evaluate config ns instances s.workload plain, ?_⟩
    rw [StoredWorkload.evaluated, (identity_evaluate config ns instances s.workload).2]
    exact named
  · exact sound other kept

/-- Nothing is left to do for any workload that a pass goes over. -/
def Settled (store : Store) : Prop :=
  ∀ s ∈ store.workloads, s.InScope ns → s.workload.Steady config ns instances

theorem settle_eq_self (store : Store) (steady : store.Settled config ns instances) :
    store.settle config ns instances = store := by
  have same : ∀ s ∈ store.workloads, s.settled config ns instances = s := by
    intro s stored
    unfold StoredWorkload.settled
    split
    next inside =>
      exact s.evaluated_of_steady config ns instances (steady s stored inside)
    next => rfl
  refine Store.ext (x := settle config ns instances store) rfl rfl ?_
  exact (List.map_congr_left same).trans (List.map_id' _)

/-- A sound store from which a complete pass leads to a given one. -/
structure Toward (target store : Store) : Prop where
  sound : store.Sound
  settles : store.settle config ns instances = target

theorem toward_put_evaluated (target store : Store)
    (toward : Toward config ns instances target store) (s : StoredWorkload)
    (stored : s ∈ store.workloads) (inside : s.InScope ns) :
    Toward config ns instances target (store.put (s.evaluated config ns instances)) where
  sound := store.sound_put_evaluated config ns instances toward.sound s stored
  settles := (store.settle_put_evaluated config ns instances toward.sound s stored inside).trans
    toward.settles

end Store

/-! ### Parts of a pass -/

theorem persist_store (faults : Faults) (session : Session) (namespaceName : String)
    (w : Workload) :
    let result := (persist namespaceName w).run (Session.handle faults) session
    (∃ error, result.1 = .error error ∧ result.2.store = session.store) ∨
      (result.1 = .ok () ∧ result.2.store = session.store.put ⟨namespaceName, w⟩) := by
  intro result
  unfold result
  rw [persist, Client.run_andThen]
  by_cases named : w.anyName = ""
  · refine Or.inl ⟨.missingName, ?_, ?_⟩ <;> rw [Client.sendNamed, if_pos named] <;> rfl
  · rw [Client.run_sendNamed _ _ _ _ named]
    rcases Session.store_handle_replaceWorkload faults session namespaceName w.anyName w with
      ⟨error, failed, same⟩ | ⟨kept, accepted, written⟩
    · exact Or.inl ⟨error, by rw [failed]; rfl, same⟩
    · exact Or.inr ⟨by rw [accepted]; rfl, written⟩

/-- Where nothing fails, a workload that is kept under its name can be stored. -/
theorem persist_succeeds (session : Session) (namespaceName : String) (old w : Workload)
    (stored : ⟨namespaceName, old⟩ ∈ session.store.workloads) (kind : w.kind = old.kind)
    (name : w.anyName = old.anyName) (named : old.anyName ≠ "") :
    ((persist namespaceName w).run (Session.handle noFaults) session).1 = .ok () := by
  rw [← name] at named
  rw [persist, Client.run_andThen, Client.run_sendNamed _ _ _ _ named,
    Session.handle_replaceWorkload session namespaceName old w stored kind name]
  rfl

/-- One step of a pass stores the evaluated workload, or leaves the store: without a failure only
if nothing is left to do for the workload. -/
theorem passWorkload_store (faults : Faults) (session : Session) (w : Workload) :
    let result := (passWorkload config ns instances w).run (Session.handle faults) session
    (result.2.store = session.store ∧
        (result.1.failed = 0 → w.Steady config ns instances)) ∨
      result.2.store = session.store.put
        (StoredWorkload.evaluated config ns instances ⟨ns.anyName, w⟩) := by
  intro result
  unfold result passWorkload
  cases changed : (evaluate config ns instances w).1.changed with
  | false =>
    have steady := steady_of_not_changed config ns instances w changed
    simp [changed, steady]
  | true =>
    simp only [changed, if_true, Client.run_andThen]
    rcases persist_store faults session ns.anyName (evaluate config ns instances w).2 with
      ⟨error, failed, same⟩ | ⟨accepted, written⟩
    · left
      rw [failed]
      exact ⟨same, by simp⟩
    · right
      rw [accepted]
      exact written

/-- Where nothing fails, a step over a workload of the store does not fail. -/
theorem passWorkload_succeeds (session : Session) (w : Workload)
    (stored : ⟨ns.anyName, w⟩ ∈ session.store.workloads) (named : w.anyName ≠ "") :
    ((passWorkload config ns instances w).run (Session.handle noFaults) session).1.failed = 0 := by
  unfold passWorkload
  cases changed : (evaluate config ns instances w).1.changed with
  | false => simp [changed]
  | true =>
    obtain ⟨kind, name⟩ := identity_evaluate config ns instances w
    have success := persist_succeeds session ns.anyName w (evaluate config ns instances w).2 stored
      kind name named
    simp [changed, success]

/-- What a part of a pass, given some workloads to go over, is known to have done, whatever failed:
it leads on to the same store; where work is left, it was left before, and not among the given
workloads if there was no failure; and there is none if no request fails. -/
structure PassedOver (target : Store) (faults : Faults) (given : StoredWorkload → Prop)
    (before : Session) (result : PassReport × Session) : Prop where
  toward : Store.Toward config ns instances target result.2.store
  origin : ∀ s ∈ result.2.store.workloads, s.workload.Steady config ns instances ∨
    s ∈ before.store.workloads
  covers : result.1.failed = 0 → ∀ s ∈ result.2.store.workloads, given s →
    s.workload.Steady config ns instances
  complete : faults = noFaults → result.1.failed = 0

variable (target : Store) (faults : Faults)

/-- A part of a pass that only reads, and fails unless it is given nothing. -/
theorem PassedOver.idle (given : StoredWorkload → Prop) (before : Session) (sent : List Request)
    (toward : Store.Toward config ns instances target before.store) (report : PassReport)
    (nothing : report.failed = 0 → ∀ s, ¬given s)
    (complete : faults = noFaults → report.failed = 0) :
    PassedOver config ns instances target faults given before (report, { before with sent }) where
  toward := toward
  origin := fun _ stored => Or.inr stored
  covers := fun success s _ given_here => absurd given_here (nothing success s)
  complete := complete

variable {config ns instances target faults} in
/-- Two parts of a pass, one after the other, are one part that goes over the workloads of both. -/
theorem PassedOver.append {first_given second_given given : StoredWorkload → Prop}
    {before : Session} {first second : PassReport × Session}
    (first_part : PassedOver config ns instances target faults first_given before first)
    (second_part : PassedOver config ns instances target faults second_given first.2 second)
    (divided : ∀ s, given s → first_given s ∨ second_given s) :
    PassedOver config ns instances target faults given before
      (first.1 + second.1, second.2) where
  toward := second_part.toward
  origin := by
    intro s stored
    rcases second_part.origin s stored with steady | earlier
    · exact Or.inl steady
    · exact first_part.origin s earlier
  covers := by
    intro success s stored given_here
    dsimp only at success
    rw [PassReport.failed_add] at success
    rcases divided s given_here with given_first | given_second
    · rcases second_part.origin s stored with steady | earlier
      · exact steady
      · exact first_part.covers (by omega) s earlier given_first
    · exact second_part.covers (by omega) s stored given_second
  complete := by
    intro none_fails
    have first_success := first_part.complete none_fails
    have second_success := second_part.complete none_fails
    dsimp only
    rw [PassReport.failed_add, first_success, second_success]

/-- A step of a pass goes over one workload. -/
theorem passWorkload_passedOver (session : Session) (w : Workload)
    (toward : Store.Toward config ns instances target session.store)
    (stored : ⟨ns.anyName, w⟩ ∈ session.store.workloads) (kind : w.kind ∈ passKinds) :
    PassedOver config ns instances target faults (· = ⟨ns.anyName, w⟩) session
      ((passWorkload config ns instances w).run (Session.handle faults) session) := by
  have inside : StoredWorkload.InScope ns ⟨ns.anyName, w⟩ := ⟨rfl, kind⟩
  obtain ⟨plain, named⟩ := toward.sound _ stored
  have complete : faults = noFaults →
      ((passWorkload config ns instances w).run (Session.handle faults) session).1.failed = 0 := by
    rintro rfl
    exact passWorkload_succeeds config ns instances session w stored named
  rcases passWorkload_store config ns instances faults session w with ⟨same, nothing_left⟩ | written
  · refine ⟨by rw [same]; exact toward, ?_, ?_, complete⟩
    · intro s after
      rw [same] at after
      exact Or.inr after
    · rintro success s - rfl
      exact nothing_left success
  · have steady := StoredWorkload.steady_evaluated config ns instances _ inside plain
    refine ⟨?_, ?_, ?_, complete⟩
    · rw [written]
      exact Store.toward_put_evaluated config ns instances target _ toward _ stored inside
    · intro s after
      rw [written] at after
      rcases Store.mem_put _ _ _ after with rfl | ⟨kept, -⟩
      · exact Or.inl steady
      · exact Or.inr kept
    · -- Where the workload as it was is still in the store, its evaluation left it as it was.
      rintro - s after rfl
      rw [written] at after
      rcases Store.mem_put _ _ _ after with unchanged | ⟨-, elsewhere⟩
      · rw [unchanged]
        exact steady
      · exact absurd (StoredWorkload.address_evaluated config ns instances _).symm elsewhere

/-- A step leaves the workloads at other addresses in the store. -/
theorem mem_after_passWorkload (session : Session) (w other : Workload)
    (stored : ⟨ns.anyName, other⟩ ∈ session.store.workloads)
    (different : StoredWorkload.address ⟨ns.anyName, w⟩ ≠
      StoredWorkload.address ⟨ns.anyName, other⟩) :
    ⟨ns.anyName, other⟩ ∈ ((passWorkload config ns instances w).run
      (Session.handle faults) session).2.store.workloads := by
  rcases passWorkload_store config ns instances faults session w with ⟨same, -⟩ | written
  · rw [same]
    exact stored
  · rw [written]
    apply Store.mem_put_of_ne _ _ _ stored
    rw [StoredWorkload.address_evaluated]
    exact different.symm

/-- By induction over the listed workloads: each is still in the store when its turn comes, because
those before it are kept at other addresses. -/
theorem passWorkloads_passedOver (workloads : List Workload) (session : Session)
    (toward : Store.Toward config ns instances target session.store)
    (stored : ∀ w ∈ workloads, ⟨ns.anyName, w⟩ ∈ session.store.workloads)
    (kind : ∀ w ∈ workloads, w.kind ∈ passKinds)
    (distinct : workloads.Pairwise fun a b =>
      StoredWorkload.address ⟨ns.anyName, a⟩ ≠ StoredWorkload.address ⟨ns.anyName, b⟩) :
    PassedOver config ns instances target faults
      (fun s => s.namespaceName = ns.anyName ∧ s.workload ∈ workloads) session
      ((passWorkloads config ns instances workloads).run (Session.handle faults) session) := by
  induction workloads generalizing session with
  | nil =>
    exact PassedOver.idle config ns instances target faults _ session session.sent toward {}
      (fun _ s given => List.not_mem_nil given.2) fun _ => rfl
  | cons w rest ih =>
    have parts := List.pairwise_cons.1 distinct
    have first := passWorkload_passedOver config ns instances target faults session w toward
      (stored w List.mem_cons_self) (kind w List.mem_cons_self)
    have still_stored : ∀ other ∈ rest, ⟨ns.anyName, other⟩ ∈ ((passWorkload config ns instances
        w).run (Session.handle faults) session).2.store.workloads := by
      intro other member
      exact mem_after_passWorkload config ns instances faults session w other
        (stored other (List.mem_cons_of_mem _ member)) (parts.1 other member)
    have others := ih _ first.toward still_stored
      (fun other member => kind other (List.mem_cons_of_mem _ member)) parts.2
    rw [passWorkloads, Client.run_andThen, Client.run_andThen, Client.run_pure]
    apply first.append others
    rintro ⟨name, v⟩ ⟨rfl, member⟩
    rcases List.mem_cons.1 member with rfl | later
    · exact Or.inl rfl
    · exact Or.inr ⟨rfl, later⟩

theorem passKind_passedOver (kind : WorkloadKind) (passed : kind ∈ passKinds) (session : Session)
    (toward : Store.Toward config ns instances target session.store) :
    PassedOver config ns instances target faults
      (fun s => s.namespaceName = ns.anyName ∧ s.workload.kind = kind) session
      ((passKind config ns instances kind).run (Session.handle faults) session) := by
  have noted := Session.handle_of_ne_put faults session (.listWorkloads kind (some ns.anyName))
    (by simp [Request.method])
  rw [passKind, Client.run_andThen, Client.run_send, noted]
  split
  next error failed =>
    have counted : ({ failed := 1 } : PassReport).failed ≠ 0 := Nat.one_ne_zero
    exact PassedOver.idle config ns instances target faults _ session _ toward { failed := 1 }
      (fun success => absurd success counted) (by rintro rfl; cases failed)
  next workloads success =>
    have listed := Session.answer_of_handle faults session _ workloads success
    cases listed
    have member (w : Workload) := session.store.mem_listWorkloads kind ns.anyName w
    have passed_over := passWorkloads_passedOver config ns instances target faults
      (session.store.listWorkloads kind (some ns.anyName))
      { session with sent := session.sent ++ [.listWorkloads kind (some ns.anyName)] } toward
      (fun w listed => ((member w).1 listed).1)
      (fun w listed => by rw [((member w).1 listed).2]; exact passed)
      (session.store.distinct_listWorkloads kind ns.anyName)
    refine ⟨passed_over.toward, passed_over.origin, ?_, passed_over.complete⟩
    -- A workload of the kind with work left was in the store before, so it was listed.
    rintro no_failure ⟨name, w⟩ after ⟨rfl, same_kind⟩
    rcases passed_over.origin _ after with steady | earlier
    · exact steady
    · exact passed_over.covers no_failure _ after ⟨rfl, (member w).2 ⟨earlier, same_kind⟩⟩

theorem passOver_passedOver (kinds : List WorkloadKind) (passed : ∀ kind ∈ kinds, kind ∈ passKinds)
    (session : Session) (toward : Store.Toward config ns instances target session.store) :
    PassedOver config ns instances target faults
      (fun s => s.namespaceName = ns.anyName ∧ s.workload.kind ∈ kinds) session
      ((passOver config ns instances kinds).run (Session.handle faults) session) := by
  induction kinds generalizing session with
  | nil =>
    exact PassedOver.idle config ns instances target faults _ session session.sent toward {}
      (fun _ s given => List.not_mem_nil given.2) fun _ => rfl
  | cons kind rest ih =>
    have first := passKind_passedOver config ns instances target faults kind
      (passed kind List.mem_cons_self) session toward
    have others := ih (fun other member => passed other (List.mem_cons_of_mem _ member)) _
      first.toward
    rw [passOver, Client.run_andThen, Client.run_andThen, Client.run_pure]
    apply first.append others
    rintro s ⟨inside, member⟩
    rcases List.mem_cons.1 member with same | later
    · exact Or.inl ⟨inside, same⟩
    · exact Or.inr ⟨inside, later⟩

/-! ### Passes with nothing left to do -/

/-- A steady workload is evaluated and not stored. -/
theorem passWorkload_of_steady (w : Workload) (steady : w.Steady config ns instances) :
    passWorkload config ns instances w = pure { evaluated := 1 } := by
  obtain ⟨evaluation, nothing, result⟩ := steady
  unfold passWorkload
  rw [result]
  rcases nothing with rfl | rfl <;> rfl

theorem passWorkloads_of_steady (workloads : List Workload)
    (steady : ∀ w ∈ workloads, w.Steady config ns instances) :
    ∃ count, passWorkloads config ns instances workloads = pure { evaluated := count } := by
  induction workloads with
  | nil => exact ⟨0, rfl⟩
  | cons w rest ih =>
    obtain ⟨count, others⟩ := ih fun other member => steady other (List.mem_cons_of_mem _ member)
    have first := passWorkload_of_steady config ns instances w (steady w List.mem_cons_self)
    refine ⟨1 + count, ?_⟩
    rw [passWorkloads, first, others]
    rfl

theorem passKind_of_steady (kind : WorkloadKind) (passed : kind ∈ passKinds) (session : Session)
    (steady : session.store.Settled config ns instances) :
    let result := (passKind config ns instances kind).run (Session.handle faults) session
    session.OnlyRead result.2 ∧ result.1.persisted = 0 := by
  have read := Session.onlyRead_handle faults session (.listWorkloads kind (some ns.anyName))
    (by simp [Request.method])
  intro result
  unfold result
  rw [passKind, Client.run_andThen, Client.run_send]
  split
  next => exact ⟨read, rfl⟩
  next workloads success =>
    have listed := Session.answer_of_handle faults session _ workloads success
    cases listed
    have listed_steady : ∀ w ∈ session.store.listWorkloads kind (some ns.anyName),
        w.Steady config ns instances := by
      intro w member
      obtain ⟨stored, same_kind⟩ := (session.store.mem_listWorkloads kind ns.anyName w).1 member
      exact steady _ stored ⟨rfl, by rw [same_kind]; exact passed⟩
    obtain ⟨count, nothing⟩ := passWorkloads_of_steady config ns instances _ listed_steady
    rw [nothing]
    exact ⟨read, rfl⟩

/-- Over a store in which nothing is left to do, passes only read. -/
theorem passOver_of_steady (kinds : List WorkloadKind) (passed : ∀ kind ∈ kinds, kind ∈ passKinds)
    (session : Session)
    (steady : session.store.Settled config ns instances) :
    let result := (passOver config ns instances kinds).run (Session.handle faults) session
    session.OnlyRead result.2 ∧ result.1.persisted = 0 := by
  induction kinds generalizing session with
  | nil => exact ⟨.refl session, rfl⟩
  | cons kind rest ih =>
    obtain ⟨first_read, first_none⟩ := passKind_of_steady config ns instances faults kind
      (passed kind List.mem_cons_self) session steady
    have still_steady := steady
    rw [← first_read.store] at still_steady
    obtain ⟨read, none_stored⟩ := ih (fun other member => passed other (List.mem_cons_of_mem _ member))
      _ still_steady
    intro result
    unfold result
    rw [passOver, Client.run_andThen, Client.run_andThen, Client.run_pure]
    refine ⟨first_read.trans read, ?_⟩
    rw [PassReport.persisted_add, first_none, none_stored]

end Pass

end TracingSidecar
