import TracingSidecar.Proofs.Settings.Precedence

/-!
# Merging in groups

Layers of settings may be merged group by group and the results merged again: the outcome is that of
merging all layers at once (`merge_flatten`).  What a merged group shows is what the first of its
fragments shows (`MergedFrom`), so this is argued for the description and holds of merging because
the description leaves no choice.  A group without fragments would not do: it has no service
account, and as the last group it would hide an empty one.
-/

namespace TracingSidecar

section Named

variable {α : Type} (name : α → String)

/-- Dropping namesakes in two lists beforehand makes no difference to those dropped from both. -/
theorem distinctBy_append_distinctBy (items more : List α) :
    distinctBy name (distinctBy name items ++ distinctBy name more) =
      distinctBy name (items ++ more) := by
  have same_names : ∀ item, (distinctBy name items).all (fun other => name item != name other) =
      items.all fun other => name item != name other := by
    intro item
    rw [Bool.eq_iff_iff, List.all_eq_true, List.all_eq_true]
    constructor
    · intro apart other member
      obtain ⟨kept, found, same⟩ := namesCovered_distinctBy name items other member
      rw [← same]
      exact apart kept found
    · intro apart other member
      exact apart other (mem_of_mem_distinctBy name items other member)
  rw [distinctBy_append, distinctBy_append,
    distinctBy_eq_self name _ (namesDiffer_distinctBy name items),
    distinctBy_eq_self name _ (namesDiffer_distinctBy name more)]
  simp only [same_names]

theorem firstOfEachName_flatMap (lists : List (List α)) :
    firstOfEachName name (lists.flatMap (firstOfEachName name)) =
      firstOfEachName name lists.flatten := by
  rw [← funext (distinctBy_eq_firstOfEachName name)]
  induction lists with
  | nil => rfl
  | cons items rest ih =>
    rw [List.flatMap_cons, List.flatten_cons, ← distinctBy_append_distinctBy,
      distinctBy_eq_self name _ (namesDiffer_distinctBy name items), ih,
      distinctBy_append_distinctBy]

end Named

namespace Settings

section

variable {groups : List (List Settings)} {merged : Settings}

theorem ShowsFirst.flatten {β : Type} {view : Settings → Option β}
    (each : ∀ group, ShowsFirst view group (merge group))
    (all : ShowsFirst view (groups.map merge) merged) : ShowsFirst view groups.flatten merged := by
  have shown (group : List Settings) := (showsFirst_iff view _ _).1 (each group)
  rw [showsFirst_iff] at all ⊢
  rw [all]
  clear all
  induction groups with
  | nil => rfl
  | cons group rest ih =>
    rw [List.map_cons, List.findSome?_cons, List.flatten_cons, List.findSome?_append, ih,
      shown group]
    cases group.findSome? view <;> rfl

/-- What holds of a merged group if it holds of every fragment in it, and only then, holds of all
merged groups if it holds of all fragments. -/
theorem forall_merge_iff {holds : Settings → Prop}
    (each : ∀ group, holds (merge group) ↔ ∀ f ∈ group, holds f) :
    (∀ m ∈ groups.map merge, holds m) ↔ ∀ f ∈ groups.flatten, holds f := by
  simp only [List.forall_mem_map, each, List.mem_flatten]
  exact ⟨fun all f ⟨group, listed, member⟩ => all group listed f member,
    fun all group listed f member => all f ⟨group, listed, member⟩⟩

theorem firstOfEachName_flatten {α : Type} {name : α → String} {items : Settings → List α}
    (each : ∀ group, items (merge group) = firstOfEachName name (group.flatMap items)) :
    firstOfEachName name ((groups.map merge).flatMap items) =
      firstOfEachName name (groups.flatten.flatMap items) := by
  have all_items : groups.flatten.flatMap items = (groups.map (·.flatMap items)).flatten := by
    rw [← List.flatMap_def, ← List.flatMap_id, List.flatMap_assoc]
    rfl
  rw [all_items, ← firstOfEachName_flatMap, List.flatMap_map, List.flatMap_map]
  simp only [each]

/-- The last fragment of all is the last one of the last group. -/
theorem serviceAccount_flatten (nonempty : ∀ group ∈ groups, group ≠ [])
    (all : MergedFrom (groups.map merge) merged) :
    (∀ f ∈ groups.flatten, f.namedAccount? = none) →
      merged.serviceAccount = groups.flatten.getLast?.bind (·.serviceAccount) := by
  intro unnamed
  have merged_unnamed := (forall_merge_iff namedAccount?_merge_eq_none).2 unnamed
  rw [all.unnamedAccount merged_unnamed]
  rcases List.eq_nil_or_concat groups with rfl | ⟨front, last, rfl⟩
  · rfl
  · have last_nonempty := nonempty last (by simp)
    have last_unnamed : ∀ f ∈ last, f.namedAccount? = none := fun f member =>
      unnamed f (by simp [member])
    have last_fragment := List.getLast?_eq_some_getLast last_nonempty
    simp [serviceAccount_merge last last_unnamed, last_fragment]

/-- What is merged from merged groups is merged from all their fragments. -/
theorem MergedFrom.flatten (nonempty : ∀ group ∈ groups, group ≠ [])
    (all : MergedFrom (groups.map merge) merged) : MergedFrom groups.flatten merged where
  annotations key := .flatten (fun group => (mergedFrom_merge group).annotations key)
    (all.annotations key)
  labels key := .flatten (fun group => (mergedFrom_merge group).labels key) (all.labels key)
  volumes := all.volumes.trans
    (firstOfEachName_flatten fun group => (mergedFrom_merge group).volumes)
  volumeMounts := all.volumeMounts.trans
    (firstOfEachName_flatten fun group => (mergedFrom_merge group).volumeMounts)
  imagePullSecrets := all.imagePullSecrets.trans
    (firstOfEachName_flatten fun group => (mergedFrom_merge group).imagePullSecrets)
  tolerations := by
    rw [all.tolerations, List.flatMap_map, ← List.flatMap_id, List.flatMap_assoc]
    rfl
  affinity := .flatten (fun group => (mergedFrom_merge group).affinity) all.affinity
  securityContext :=
    .flatten (fun group => (mergedFrom_merge group).securityContext) all.securityContext
  containerSecurityContext :=
    .flatten (fun group => (mergedFrom_merge group).containerSecurityContext)
      all.containerSecurityContext
  serviceAccount :=
    .flatten (fun group => (mergedFrom_merge group).serviceAccount) all.serviceAccount
  unnamedAccount := serviceAccount_flatten nonempty all
  limits key := .flatten (fun group => (mergedFrom_merge group).limits key) (all.limits key)
  requests key := .flatten (fun group => (mergedFrom_merge group).requests key) (all.requests key)
  claims := .flatten (fun group => (mergedFrom_merge group).claims) all.claims
  noLimits := all.noLimits.trans (forall_merge_iff limits_merge_eq_none)
  noRequests := all.noRequests.trans (forall_merge_iff requests_merge_eq_none)
  noResources := all.noResources.trans <| forall_merge_iff fun group =>
    (forall_resources_iff (merge group)).trans
      ((resources_merge_eq_none group).symm.trans (mergedFrom_merge group).noResources)

/-- Merging group by group and then the results is merging all fragments at once. -/
theorem merge_flatten (groups : List (List Settings)) (nonempty : ∀ group ∈ groups, group ≠ []) :
    merge groups.flatten = merge (groups.map merge) :=
  (mergedFrom_merge groups.flatten).unique
    (MergedFrom.flatten nonempty (mergedFrom_merge (groups.map merge)))

/-- Layers in two groups, each merged first, come to the same as all of them merged at once. -/
theorem merge_append (xs ys : List Settings) (first : xs ≠ []) (second : ys ≠ []) :
    merge (xs ++ ys) = merge [merge xs, merge ys] := by
  have grouped := merge_flatten [xs, ys] (by simp [first, second])
  simpa using grouped

end

/-- The empty service account and the empty requirements of the first layer, and the second volume
`tmp`, are lost in the same way. -/
theorem merge_append_tmp :
    let specific : Settings :=
      { serviceAccount := some "", resources := some {}, volumes := [{ name := "tmp" }] }
    let general : Settings :=
      { serviceAccount := some "tracing", volumes := [{ name := "tmp", secret := some {} }] }
    [specific, {}] ≠ [] ∧ [general, specific] ≠ [] ∧
      merge ([specific, {}] ++ [general, specific]) =
        merge [merge [specific, {}], merge [general, specific]] ∧
      merge ([specific, {}] ++ [general, specific]) =
        { serviceAccount := some "tracing", volumes := [{ name := "tmp" }] } := by
  intro specific general
  exact ⟨by simp, by simp, merge_append [specific, {}] [general, specific] (by simp) (by simp),
    by decide⟩

/-- An empty last group hides that the service account of the layer in front is an empty one. -/
example :
    let layer : Settings := { serviceAccount := some "" }
    merge ([layer] ++ []) = layer ∧ merge [merge [layer], merge []] = {} := by
  decide

end Settings

end TracingSidecar
