import TracingSidecar.Injection.Selection

/-!
# The order of the candidates

The candidates come in the order in which the cluster lists them, which means nothing.  Where any
instance would do, the order does not matter.  Where an instance is asked for by name, the first one
of that name is taken, and instances in different namespaces may share a name: then it is the order
that decides.  `select?_perm_iff` says exactly when the choice is independent of it.
-/

namespace TracingSidecar

/-! ### What is asked for -/

theorem isOptedIn_congr (w later : Workload) (ns : Namespace) (asks : later.optIn? = w.optIn?) :
    later.isOptedIn ns = w.isOptedIn ns := by
  unfold Workload.isOptedIn
  rw [asks]

/-- An instance is selected by what the workload asks for and by its namespace. -/
theorem select?_congr (w later : Workload) (ns : Namespace) (instances : List TracingInstance)
    (asks : later.optIn? = w.optIn?)
    (placed : later.metadata.namespaceName = w.metadata.namespaceName) :
    select? later ns instances = select? w ns instances := by
  unfold select? targetNamespace
  rw [asks, placed]

/-- The name that an instance is looked up by, if the workload or its namespace gives one. -/
def explicitName? (w : Workload) (ns : Namespace) : Option String :=
  let own := w.optIn?.getD ""
  let inherited := ns.optIn?.getD ""
  if saysFalse own then none
  else if namesInstance own then some own
  else if namesInstance inherited then some inherited
  else none

/-- What is chosen is one of the candidates. -/
theorem mem_of_select? (w : Workload) (ns : Namespace) (candidates : List TracingInstance)
    (i : TracingInstance) (selected : select? w ns candidates = some i) : i ∈ candidates := by
  have only_inside (inside : onlyIn? (targetNamespace w ns) candidates = some i) :
      i ∈ candidates := by
    unfold onlyIn? at inside
    split at inside
    next only alone =>
      cases inside
      have member : i ∈ candidates.filter fun i => i.namespace? = some (targetNamespace w ns) := by
        rw [alone]
        exact List.mem_singleton.2 rfl
      exact (List.mem_filter.1 member).1
    next => cases inside
  simp only [select?] at selected
  split at selected
  next => cases selected
  split at selected
  next => exact List.mem_of_find?_eq_some selected
  split at selected
  next => exact List.mem_of_find?_eq_some selected
  split at selected
  next =>
    unfold unambiguous? at selected
    split at selected
    next only =>
      cases selected
      exact List.mem_singleton.2 rfl
    next => exact only_inside selected
  next => cases selected

/-! ### The order -/

/-- The only item of a list. -/
def sole? {α : Type} : List α → Option α
  | [only] => some only
  | _ => none

theorem sole?_perm {α : Type} (items shuffled : List α) (perm : shuffled.Perm items) :
    sole? shuffled = sole? items := by
  match items, perm with
  | [], perm => rw [List.perm_nil.1 perm]
  | [only], perm => rw [List.perm_singleton.1 perm]
  | first :: second :: rest, perm =>
    have same_length := perm.length_eq
    match shuffled, same_length with
    | a :: b :: others, _ => rfl

theorem onlyIn?_eq (target : String) (candidates : List TracingInstance) :
    onlyIn? target candidates =
      sole? (candidates.filter fun i => i.namespace? = some target) := by
  unfold onlyIn?
  generalize candidates.filter (fun i => i.namespace? = some target) = inside
  match inside with
  | [] => rfl
  | [only] => rfl
  | first :: second :: rest => rfl

theorem unambiguous?_eq (target : String) (candidates : List TracingInstance) :
    unambiguous? target candidates = (sole? candidates).or (onlyIn? target candidates) := by
  match candidates with
  | [] => rfl
  | [only] => rfl
  | first :: second :: rest => rfl

theorem unambiguous?_perm (target : String) (candidates shuffled : List TracingInstance)
    (perm : shuffled.Perm candidates) :
    unambiguous? target shuffled = unambiguous? target candidates := by
  rw [unambiguous?_eq, unambiguous?_eq, onlyIn?_eq, onlyIn?_eq, sole?_perm _ _ perm,
    sole?_perm _ _ (perm.filter _)]

/-- Without a name, the choice does not depend on the order. -/
theorem select?_perm_of_unnamed (w : Workload) (ns : Namespace)
    (candidates shuffled : List TracingInstance) (perm : shuffled.Perm candidates)
    (unnamed : explicitName? w ns = none) : select? w ns shuffled = select? w ns candidates := by
  have same := unambiguous?_perm (targetNamespace w ns) candidates shuffled perm
  simp only [explicitName?] at unnamed
  simp only [select?]
  split at unnamed
  next declined => rw [if_pos declined, if_pos declined]
  split at unnamed
  next => cases unnamed
  split at unnamed
  next => cases unnamed
  next accepted no_own no_inherited =>
    rw [same]
    simp only [if_neg accepted, if_neg no_own, if_neg no_inherited]

/-- With a name, the first candidate of that name is chosen. -/
theorem select?_of_named (w : Workload) (ns : Namespace) (candidates : List TracingInstance)
    (name : String) (named : explicitName? w ns = some name) :
    select? w ns candidates = candidates.find? fun i => i.anyName = name := by
  simp only [explicitName?] at named
  simp only [select?]
  split at named
  next => cases named
  split at named
  next accepted own =>
    cases named
    rw [if_neg accepted, if_pos own]
  split at named
  next accepted no_own inherited =>
    cases named
    rw [if_neg accepted, if_neg no_own, if_pos inherited]
  next => cases named

/-- Any candidate of the name is chosen in some order of them. -/
theorem exists_perm_select? (w : Workload) (ns : Namespace) (candidates : List TracingInstance)
    (i : TracingInstance) (member : i ∈ candidates)
    (named : explicitName? w ns = some i.anyName) :
    ∃ shuffled, shuffled.Perm candidates ∧ select? w ns shuffled = some i := by
  refine ⟨i :: candidates.erase i, (List.perm_cons_erase member).symm, ?_⟩
  rw [select?_of_named w ns _ i.anyName named]
  exact List.find?_cons_of_pos (by simp)

/-- The choice is independent of the order of the candidates exactly if no two of them have the name
that the workload or its namespace asks for. -/
theorem select?_perm_iff (w : Workload) (ns : Namespace) (candidates : List TracingInstance) :
    (∀ shuffled, shuffled.Perm candidates → select? w ns shuffled = select? w ns candidates) ↔
      ∀ a ∈ candidates, ∀ b ∈ candidates, explicitName? w ns = some a.anyName →
        explicitName? w ns = some b.anyName → a = b := by
  constructor
  · intro independent a a_member b b_member a_named b_named
    obtain ⟨a_first, a_perm, a_chosen⟩ := exists_perm_select? w ns candidates a a_member a_named
    obtain ⟨b_first, b_perm, b_chosen⟩ := exists_perm_select? w ns candidates b b_member b_named
    rw [independent a_first a_perm] at a_chosen
    rw [independent b_first b_perm, a_chosen] at b_chosen
    exact Option.some.inj b_chosen
  · intro unique shuffled perm
    cases named : explicitName? w ns with
    | none => exact select?_perm_of_unnamed w ns candidates shuffled perm named
    | some name =>
      rw [select?_of_named w ns shuffled name named, select?_of_named w ns candidates name named]
      cases found : candidates.find? fun i => i.anyName = name with
      | none =>
        rw [List.find?_eq_none] at found ⊢
        exact fun i member => found i (perm.mem_iff.1 member)
      | some a =>
        have a_member := List.mem_of_find?_eq_some found
        have a_name : a.anyName = name := by simpa using List.find?_some found
        cases shuffled_found : shuffled.find? fun i => i.anyName = name with
        | none =>
          have no_name := List.find?_eq_none.1 shuffled_found a (perm.mem_iff.2 a_member)
          exact absurd a_name (by simpa using no_name)
        | some b =>
          have b_member := perm.mem_iff.1 (List.mem_of_find?_eq_some shuffled_found)
          have b_name : b.anyName = name := by simpa using List.find?_some shuffled_found
          rw [unique b b_member a a_member (by rw [named, b_name]) (by rw [named, a_name])]

/-- An instance of a name in a namespace. -/
def Sample.instanceAt (namespaceName name : String) : TracingInstance where
  metadata := { name := some name, namespaceName := some namespaceName }

/-- A deployment that asks for the instance named `prod`. -/
def Sample.loyal : Workload where
  metadata :=
    { name := some "loyal", namespaceName := some "store"
      annotations := some (.ofList [(injectKey, "prod")]) }
  body := .deployment none

/-- Two instances of one name in different namespaces: the order decides between them. -/
theorem select?_depends_on_order :
    let first := Sample.instanceAt "tracing-a" "prod"
    let second := Sample.instanceAt "tracing-b" "prod"
    ([first, second].map fun i => (i.namespace?, i.anyName)).Nodup ∧
      [second, first].Perm [first, second] ∧
      select? Sample.loyal {} [first, second] = some first ∧
      select? Sample.loyal {} [second, first] = some second ∧
      select? Sample.loyal {} [second, first] ≠ select? Sample.loyal {} [first, second] := by
  refine ⟨by decide, List.Perm.swap _ _ _, by decide, by decide, by decide⟩

end TracingSidecar
