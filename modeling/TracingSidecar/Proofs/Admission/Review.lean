import TracingSidecar.Admission.Mutation
import TracingSidecar.Proofs.Object.Patches
import TracingSidecar.Proofs.Reconcile.Convergence

/-!
# What becomes of a reviewed object

An object is evaluated in the namespace that it is about to be stored in, and the patch of the
evaluation is made to the object as it was sent, which may be in no namespace yet.  The patch says
nothing about the namespace, so it turns the object into the evaluated one in the namespace that it
was sent in (`applyTo?_diff_evaluate`, `review_answers`).  Once the object is stored where it
belongs, a pass over the namespace finds nothing to do for it (`admitted_stays`).
-/

namespace TracingSidecar

/-- What is stored of an object under a verdict: nothing if it is denied, and else the object with
the changes of the patch. -/
def Verdict.stores? (object : Json) : Verdict → Option Json
  | .denied _ => none
  | .allowed none => some object
  | .allowed (some patch) => patch.applyTo? object

/-- What an evaluation changes in an object of one namespace is changed alike in the same object of
another one. -/
theorem applyTo?_diff_evaluate (config : InjectorConfig) (ns : Namespace)
    (instances : List TracingInstance) (w : Workload) (name : Option String) :
    let placed := w.inNamespace name
    let evaluated := (evaluate config ns instances placed).2
    (Json.diff placed.encode evaluated.encode).applyTo? w.encode =
      some (evaluated.inNamespace w.metadata.namespaceName).encode := by
  intro placed evaluated
  have kind : evaluated.kind = placed.kind := (identity_evaluate config ns instances placed).1
  have same : evaluated.metadata.namespaceName = placed.metadata.namespaceName :=
    namespaceName_evaluate config ns instances placed
  have turns := placed.turns_inNamespace evaluated kind same w.metadata.namespaceName
  have sent : placed.inNamespace w.metadata.namespaceName = w := by
    rw [Workload.inNamespace_inNamespace, Workload.inNamespace_self]
  rw [sent] at turns
  exact turns [] id Json.Place.root

/-- Plain names stay plain in a namespace with a plain name. -/
theorem Workload.PlainNames.inNamespace {w : Workload} (plain : w.PlainNames) (name : Option String)
    (plain_name : ∀ text, name = some text → ',' ∉ text.toList) : (w.inNamespace name).PlainNames :=
  ⟨plain_name, plain.name, plain.containers⟩

namespace AdmissionRequest

variable {kind : WorkloadKind} (request : AdmissionRequest kind)

/-- The namespace that an object is about to be stored in: its own, or else that of the request. -/
def home (w : Workload) : Option String := w.metadata.namespaceName.or request.namespaceName

theorem place_eq (w : Workload) : request.place w = w.inNamespace (request.home w) := by
  unfold place home
  split
  next name given => rw [given, Option.some_or, ← given, Workload.inNamespace_self]
  next missing =>
    rw [missing]
    rfl

/-! ### The patch -/

section Mutate

variable (config : InjectorConfig) (ns : Namespace) (instances : List TracingInstance)

/-- There is a patch if the evaluation reports a change. -/
theorem isSome_patch? (w : Workload) :
    (request.patch? config ns instances w).isSome =
      (evaluate config ns instances (w.inNamespace (request.home w))).1.changed := by
  rw [patch?, place_eq]
  dsimp only
  split
  next changed => rw [changed, Option.isSome_some]
  next unchanged => simpa using unchanged

/-- The patch of an object, made to the object as it was sent. -/
theorem applyTo?_patch? (w : Workload) (patch : Json.Patch)
    (found : request.patch? config ns instances w = some patch) :
    patch.applyTo? w.encode =
      some ((evaluate config ns instances (w.inNamespace (request.home w))).2.inNamespace
        w.metadata.namespaceName).encode := by
  rw [patch?, place_eq] at found
  dsimp only at found
  split at found
  · cases found
    exact applyTo?_diff_evaluate config ns instances w (request.home w)
  · cases found

theorem verdict_mutate (w : WorkloadOf kind) (object : request.object = some w) :
    (request.mutate config ns instances).verdict =
      .allowed (request.patch? config ns instances w.val) := by
  rw [mutate, object]
  rfl

/-! ### What is stored -/

/-- What is stored of an object that was evaluated: the evaluated object, in the namespace that it
was sent in. -/
theorem stores?_mutate (w : WorkloadOf kind) (object : request.object = some w) :
    (request.mutate config ns instances).verdict.stores? w.val.encode =
      some ((evaluate config ns instances (w.val.inNamespace (request.home w))).2.inNamespace
        w.val.metadata.namespaceName).encode := by
  have reported := request.isSome_patch? config ns instances w
  rw [verdict_mutate request config ns instances w object]
  cases found : request.patch? config ns instances w.val with
  | none =>
    rw [found, Option.isSome_none] at reported
    obtain ⟨evaluation, -, result⟩ := steady_of_not_changed config ns instances _ reported.symm
    rw [result, Workload.inNamespace_inNamespace, Workload.inNamespace_self]
    rfl
  | some patch => exact request.applyTo?_patch? config ns instances w patch found

/-- An admitted object is steady where it is stored: its evaluation there is the one that was made
of it before. -/
theorem steady_stored (w : WorkloadOf kind) (object : request.object = some w)
    (plain : w.val.PlainNames)
    (plain_home : ∀ name, request.namespaceName = some name → ',' ∉ name.toList)
    (at_home : w.val.metadata.namespaceName = none ∨
      w.val.metadata.namespaceName = request.namespaceName)
    (leaves : kind = .pod → config.LeavesOptIn) :
    ∃ admitted, ((request.mutate config ns instances).verdict.stores? w.val.encode).bind
        (Workload.decode kind) = some admitted ∧
      (admitted.inNamespace request.namespaceName).Steady config ns instances := by
  have settled : request.home w = request.namespaceName := by
    unfold home
    rcases at_home with missing | same
    · rw [missing, Option.none_or]
    · rw [same, Option.or_self]
  have stored := request.stores?_mutate config ns instances w object
  rw [settled] at stored
  let placed := w.val.inNamespace request.namespaceName
  let evaluated := (evaluate config ns instances placed).2
  have same_kind : evaluated.kind = kind :=
    (identity_evaluate config ns instances placed).1.trans w.property
  have kept : evaluated.metadata.namespaceName = request.namespaceName :=
    namespaceName_evaluate config ns instances placed
  have steady : evaluated.Steady config ns instances :=
    steady_evaluate config ns instances placed (plain.inNamespace _ plain_home)
      fun pod => leaves (w.property.symm.trans pod)
  refine ⟨evaluated.inNamespace w.val.metadata.namespaceName, ?_, ?_⟩
  · have read := (evaluated.inNamespace w.val.metadata.namespaceName).decode_encode
    rw [Workload.kind_inNamespace, same_kind] at read
    rw [stored, Option.bind_some, read]
  · rw [Workload.inNamespace_inNamespace, ← kept, Workload.inNamespace_self]
    exact steady

end Mutate

/-! ### The review -/

/-- A review reads the namespace and then the instances, and denies the object if it cannot. -/
theorem verdict_review {σ : Type} (context : PassContext) (handle : Client.Handler σ) (state : σ)
    (w : WorkloadOf kind) (object : request.object = some w) :
    let name := request.decidingNamespace w
    let read := (Client.sendNamed name (.getNamespace name)).run handle state
    let listed := (listInstances context.watched).run handle read.2
    ((request.review context).run handle state).1.verdict =
      match read.1 with
      | .error error => .denied (namespaceUnreadable name error)
      | .ok ns =>
          match listed.1 with
          | .error error => .denied (instancesUnreadable error)
          | .ok instances => .allowed (request.patch? context.config ns instances w.val) := by
  rw [review, object]
  dsimp only
  rw [Client.run_andThen]
  generalize (Client.sendNamed (request.decidingNamespace w) _).run handle state = read
  obtain ⟨answer, after_read⟩ := read
  cases answer with
  | error error => rfl
  | ok ns =>
    dsimp only
    rw [Client.run_andThen]
    generalize (listInstances context.watched).run handle after_read = listed
    obtain ⟨answer, after_list⟩ := listed
    cases answer with
    | error error => rfl
    | ok instances => exact request.verdict_mutate context.config ns instances w object

end AdmissionRequest

/-- An object is reviewed by what is read of its namespace and of the instances.  Where both can be
read it is allowed, with the patch that turns it into the evaluated object if the evaluation changed
it and without one if not; where they cannot be read it is denied. -/
theorem review_answers {kind : WorkloadKind} {σ : Type} (context : PassContext)
    (request : AdmissionRequest kind) (w : WorkloadOf kind) (object : request.object = some w)
    (handle : Client.Handler σ) (state : σ) :
    let name := request.decidingNamespace w
    let read := (Client.sendNamed name (.getNamespace name)).run handle state
    let listed := (listInstances context.watched).run handle read.2
    let verdict := ((request.review context).run handle state).1.verdict
    match read.1, listed.1 with
    | .ok ns, .ok instances =>
        let home := w.val.metadata.namespaceName.or request.namespaceName
        let evaluated := evaluate context.config ns instances (w.val.inNamespace home)
        verdict.isAllowed = true ∧ verdict.patch?.isSome = evaluated.1.changed ∧
          ∀ patch, verdict.patch? = some patch → patch.applyTo? w.val.encode =
            some (evaluated.2.inNamespace w.val.metadata.namespaceName).encode
    | _, _ => verdict.isAllowed = false ∧ verdict.patch? = none := by
  intro name read listed verdict
  have decided : verdict = _ := request.verdict_review context handle state w object
  rw [decided]
  generalize read.1 = namespace_read
  generalize listed.1 = instances_listed
  cases namespace_read with
  | error error => exact ⟨rfl, rfl⟩
  | ok ns =>
    cases instances_listed with
    | error error => exact ⟨rfl, rfl⟩
    | ok instances =>
      exact ⟨rfl, request.isSome_patch? context.config ns instances w,
        request.applyTo?_patch? context.config ns instances w⟩

/-- A request to create the sample deployment, which is in no namespace yet. -/
def Sample.admission : AdmissionRequest .deployment where
  uid := "admission"
  kind := { group := "apps", version := "v1", kind := "Deployment" }
  resource := { group := "apps", version := "v1", resource := "deployments" }
  namespaceName := some "store"
  operation := .create
  object := some ⟨shop.inNamespace none, rfl⟩

/-- The sample is allowed with a patch that binds it to another instance and leaves it in no
namespace. -/
theorem review_answers_shop :
    let session : Session := { store := Sample.store }
    let sent := Sample.shop.inNamespace none
    let verdict := ((Sample.admission.review {}).run (Session.handle noFaults) session).1.verdict
    let evaluated :=
      evaluate {} ⟨{ name := some "store" }⟩ [Sample.instanceAt "tracing" "prod"] Sample.shop
    Sample.admission.object = some ⟨sent, rfl⟩ ∧ evaluated.1 = .updated "prod" ∧
      verdict.isAllowed = true ∧ verdict.patch?.isSome = true ∧
      ∀ patch, verdict.patch? = some patch →
        patch.applyTo? sent.encode = some (evaluated.2.inNamespace none).encode := by
  intro session sent verdict evaluated
  have updated : evaluated.1 = .updated "prod" := by decide
  have answered : verdict.isAllowed = true ∧ verdict.patch?.isSome = evaluated.1.changed ∧ _ :=
    review_answers {} Sample.admission ⟨sent, rfl⟩ rfl (Session.handle noFaults) session
  obtain ⟨allowed, reported, applied⟩ := answered
  rw [updated] at reported
  exact ⟨rfl, updated, allowed, reported, applied⟩

/-- An admitted deployment is not written again by the next pass: stored in the namespace of the
request, with the patch that it was admitted with, its evaluation reports no change. -/
theorem admitted_stays (config : InjectorConfig) (ns : Namespace)
    (instances : List TracingInstance) (request : AdmissionRequest .deployment)
    (w : WorkloadOf .deployment) (object : request.object = some w) (plain : w.val.PlainNames)
    (plain_home : ∀ name, request.namespaceName = some name → ',' ∉ name.toList)
    (at_home : w.val.metadata.namespaceName = none ∨
      w.val.metadata.namespaceName = request.namespaceName) :
    ∃ admitted, ((request.mutate config ns instances).verdict.stores? w.val.encode).bind
        (Workload.decode .deployment) = some admitted ∧
      let stored := admitted.inNamespace request.namespaceName
      (evaluate config ns instances stored).1.changed = false ∧
        passWorkload config ns instances stored = pure { evaluated := 1 } := by
  obtain ⟨admitted, read, steady⟩ :=
    request.steady_stored config ns instances w object plain plain_home at_home nofun
  refine ⟨admitted, read, ?_, passWorkload_of_steady config ns instances _ steady⟩
  obtain ⟨evaluation, nothing, result⟩ := steady
  rw [result]
  rcases nothing with rfl | rfl <;> rfl

/-- The sample is bound when it is admitted, and the next pass leaves it. -/
theorem admitted_stays_shop :
    let sent := Sample.shop.inNamespace none
    let instances := [Sample.instanceAt "tracing" "prod"]
    let verdict := (Sample.admission.mutate {} {} instances).verdict
    Sample.admission.object = some ⟨sent, rfl⟩ ∧ sent.PlainNames ∧
      sent.metadata.namespaceName = none ∧ verdict.patch?.isSome = true ∧
      ∃ admitted, (verdict.stores? sent.encode).bind (Workload.decode .deployment) =
          some admitted ∧
        let stored := admitted.inNamespace (some "store")
        (evaluate {} {} instances stored).1.changed = false ∧
          passWorkload {} {} instances stored = pure { evaluated := 1 } := by
  intro sent instances verdict
  have plain : sent.PlainNames := Sample.plainNames_shop.inNamespace none nofun
  have plain_home : ∀ name, Sample.admission.namespaceName = some name → ',' ∉ name.toList := by
    intro name given
    cases given
    decide
  exact ⟨rfl, plain, rfl, by decide, admitted_stays {} {} instances Sample.admission ⟨sent, rfl⟩ rfl
    plain plain_home (Or.inl rfl)⟩

end TracingSidecar
