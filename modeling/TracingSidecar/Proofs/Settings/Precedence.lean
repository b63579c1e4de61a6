import Mathlib.Data.List.Induction
import TracingSidecar.Proofs.Bindings

/-!
# The most specific fragment wins

`MergedFrom` says of every part of a settings fragment which of some fragments it comes from: a key
of a map or of the quantities, a claim list and an optional value from the first fragment that has
it; volumes, mounts and pull secrets from the first item of each name; tolerations from all of them;
the service account from the first fragment that names one.  Merging gives what it describes
(`mergedFrom_merge`), and it describes nothing else (`MergedFrom.unique`).
-/

namespace TracingSidecar

/-! ### The first item of each name -/

section Named

variable {α : Type} (name : α → String)

/-- The items in front of which no other item has their name, in order. -/
def firstOfEachName (items : List α) : List α :=
  (items.zipIdx.filter fun (item, i) =>
    (items.take i).all fun earlier => name earlier != name item).map (·.1)

theorem firstOfEachName_concat (items : List α) (item : α) :
    firstOfEachName name (items ++ [item]) = firstOfEachName name items ++
      [item].filter fun item => items.all fun earlier => name earlier != name item := by
  have earlier_same : ∀ entry ∈ items.zipIdx,
      ((items ++ [item]).take entry.2).all (fun earlier => name earlier != name entry.1) =
        (items.take entry.2).all fun earlier => name earlier != name entry.1 := by
    intro entry member
    have position := List.snd_lt_of_mem_zipIdx member
    rw [List.take_append_of_le_length (by omega)]
  unfold firstOfEachName
  rw [List.zipIdx_append, List.filter_append, List.map_append, List.filter_congr earlier_same]
  simp [List.filter_cons]
  split <;> simp

/-- Dropping items whose name was there before leaves the first of each name. -/
theorem distinctBy_eq_firstOfEachName (items : List α) :
    distinctBy name items = firstOfEachName name items := by
  induction items using List.reverseRecOn with
  | nil => rfl
  | append_singleton items item ih =>
    rw [firstOfEachName_concat, distinctBy_append, ih]
    simp [distinctBy, bne_comm]

end Named

/-! ### What the first fragment shows -/

namespace Settings

section Views

variable {β : Type} (view : Settings → Option β)

/-- What a view shows of settings is what it shows of the first of some fragments where it shows
anything. -/
def ShowsFirst (fragments : List Settings) (merged : Settings) : Prop :=
  ∀ value, view merged = some value ↔
    ∃ before fragment after, fragments = before ++ fragment :: after ∧
      view fragment = some value ∧ ∀ earlier ∈ before, view earlier = none

theorem showsFirst_iff (fragments : List Settings) (merged : Settings) :
    ShowsFirst view fragments merged ↔ view merged = fragments.findSome? view := by
  unfold ShowsFirst
  simp only [← List.findSome?_eq_some_iff]
  exact ⟨Option.ext, fun same value => by rw [same]⟩

/-- Where each step of a loop fills what a view of the state does not show, the view shows what it
showed before or else what the first element gives. -/
theorem view_foldl {σ α : Type} (view : σ → Option β) (given : α → Option β) (step : σ → α → σ)
    (fills : ∀ state element, view (step state element) = (view state).or (given element))
    (state : σ) (elements : List α) :
    view (elements.foldl step state) = (view state).or (elements.findSome? given) := by
  induction elements generalizing state with
  | nil => simp
  | cons element rest ih =>
    rw [List.foldl_cons, ih, fills, Option.or_assoc]
    cases shown : given element <;> simp [shown]

end Views

/-- The requirements that settings give; giving none is the same as giving empty ones. -/
def requirements (s : Settings) : ResourceRequirements := s.resources.getD {}

/-- The service account that settings name; an empty one names none. -/
def namedAccount? (s : Settings) : Option String := s.serviceAccount.filter (· ≠ "")

/-- Settings that some fragments are merged to, the most specific first. -/
structure MergedFrom (fragments : List Settings) (merged : Settings) : Prop where
  annotations : ∀ key, ShowsFirst (·.annotations.get? key) fragments merged
  labels : ∀ key, ShowsFirst (·.labels.get? key) fragments merged
  volumes : merged.volumes = firstOfEachName (·.name) (fragments.flatMap (·.volumes))
  volumeMounts : merged.volumeMounts = firstOfEachName (·.name) (fragments.flatMap (·.volumeMounts))
  imagePullSecrets :
    merged.imagePullSecrets = firstOfEachName (·.name) (fragments.flatMap (·.imagePullSecrets))
  tolerations : merged.tolerations = fragments.flatMap (·.tolerations)
  affinity : ShowsFirst (·.affinity) fragments merged
  securityContext : ShowsFirst (·.securityContext) fragments merged
  containerSecurityContext : ShowsFirst (·.containerSecurityContext) fragments merged
  serviceAccount : ShowsFirst namedAccount? fragments merged
  /-- Where no fragment names a service account, the last one says whether it is empty or absent. -/
  unnamedAccount : (∀ f ∈ fragments, f.namedAccount? = none) →
    merged.serviceAccount = fragments.getLast?.bind (·.serviceAccount)
  limits : ∀ key, ShowsFirst (·.requirements.limits.bind (·.get? key)) fragments merged
  requests : ∀ key, ShowsFirst (·.requirements.requests.bind (·.get? key)) fragments merged
  claims : ShowsFirst (·.requirements.claims) fragments merged
  /-- A map of limits is there, if an empty one, where a fragment has one. -/
  noLimits : merged.requirements.limits = none ↔ ∀ f ∈ fragments, f.requirements.limits = none
  noRequests : merged.requirements.requests = none ↔ ∀ f ∈ fragments, f.requirements.requests = none
  noResources : merged.resources = none ↔ ∀ f ∈ fragments, ∀ given, f.resources = some given →
    given.limits = none ∧ given.requests = none ∧ given.claims = none

/-! ### What merging shows -/

theorem get?_foldl_fill (map : Settings → SortedMap String) (fragments : List Settings)
    (key : String) :
    (fragments.foldl (fun (m : SortedMap String) f => m.fill (map f).entries) ∅).get? key =
      fragments.findSome? fun f => (map f).get? key :=
  view_foldl (fun m : SortedMap String => m.get? key) (fun f => (map f).get? key) _
    (fun m f => SortedMap.get?_fill m (map f).entries key) ∅ fragments

/-- The requirements of fragments are merged by filling the gaps of those in front. -/
theorem requirements_merge (fragments : List Settings) :
    (merge fragments).requirements =
      fragments.foldl (fun (r : ResourceRequirements) f => r.fill f.requirements) {} := by
  have fill_none (r : ResourceRequirements) : r.fill {} = r := by
    simp [ResourceRequirements.fill, ResourceRequirements.fillQuantities]
  have filled : (fragments.filterMap (·.resources)).foldl ResourceRequirements.fill {} =
      fragments.foldl (fun (r : ResourceRequirements) f => r.fill f.requirements) {} := by
    rw [List.foldl_filterMap]
    congr 1
    funext r f
    cases given : f.resources <;> simp [requirements, given, fill_none]
  rw [← filled]
  change (mergedResources fragments).getD {} = _
  dsimp only [mergedResources]
  split
  next nothing => exact nothing.symm
  next => rfl

/-- A part of the requirements that filling takes from the first who has it is taken from the first
fragment that has it. -/
theorem view_requirements_merge {β : Type} (view : ResourceRequirements → Option β)
    (nothing : view {} = none) (fills : ∀ r more, view (r.fill more) = (view r).or (view more))
    (fragments : List Settings) :
    view (merge fragments).requirements = fragments.findSome? fun f => view f.requirements := by
  rw [requirements_merge, view_foldl view (fun f : Settings => view f.requirements) _
    (fun r f => fills r f.requirements), nothing, Option.none_or]

theorem get?_fillQuantities (quantities more : Option (SortedMap String)) (key : String) :
    (ResourceRequirements.fillQuantities quantities more).bind (·.get? key) =
      (quantities.bind (·.get? key)).or (more.bind (·.get? key)) := by
  cases more with
  | none => simp [ResourceRequirements.fillQuantities]
  | some more =>
    have filled := (quantities.getD ∅).get?_fill more.entries key
    cases quantities <;> exact filled

theorem fillQuantities_map_unit (quantities more : Option (SortedMap String)) :
    (ResourceRequirements.fillQuantities quantities more).map (fun _ => ()) =
      (quantities.map fun _ => ()).or (more.map fun _ => ()) := by
  cases quantities <;> cases more <;> rfl

theorem limit?_merge (fragments : List Settings) (key : String) :
    (merge fragments).requirements.limits.bind (·.get? key) =
      fragments.findSome? (·.requirements.limits.bind (·.get? key)) :=
  view_requirements_merge (·.limits.bind (·.get? key)) rfl
    (fun r more => get?_fillQuantities r.limits more.limits key) fragments

theorem request?_merge (fragments : List Settings) (key : String) :
    (merge fragments).requirements.requests.bind (·.get? key) =
      fragments.findSome? (·.requirements.requests.bind (·.get? key)) :=
  view_requirements_merge (·.requests.bind (·.get? key)) rfl
    (fun r more => get?_fillQuantities r.requests more.requests key) fragments

theorem claims_merge (fragments : List Settings) :
    (merge fragments).requirements.claims = fragments.findSome? (·.requirements.claims) :=
  view_requirements_merge (·.claims) rfl (fun _ _ => rfl) fragments

theorem limits_merge_eq_none (fragments : List Settings) :
    (merge fragments).requirements.limits = none ↔
      ∀ f ∈ fragments, f.requirements.limits = none := by
  have shown := view_requirements_merge (·.limits.map fun _ => ()) rfl
    (fun r more => fillQuantities_map_unit r.limits more.limits) fragments
  rw [← Option.map_eq_none_iff (f := fun _ => ()), shown]
  simp

theorem requests_merge_eq_none (fragments : List Settings) :
    (merge fragments).requirements.requests = none ↔
      ∀ f ∈ fragments, f.requirements.requests = none := by
  have shown := view_requirements_merge (·.requests.map fun _ => ()) rfl
    (fun r more => fillQuantities_map_unit r.requests more.requests) fragments
  rw [← Option.map_eq_none_iff (f := fun _ => ()), shown]
  simp

/-- Requirements that say nothing are left out. -/
theorem resources_merge_eq_none (fragments : List Settings) :
    (merge fragments).resources = none ↔ (merge fragments).requirements = {} := by
  change mergedResources fragments = none ↔ (mergedResources fragments).getD {} = {}
  dsimp only [mergedResources]
  split
  next nothing => simp
  next something => simpa using something

theorem requirements_eq_empty_iff (s : Settings) :
    s.requirements = {} ↔ s.requirements.limits = none ∧ s.requirements.requests = none ∧
      s.requirements.claims = none := by
  cases s.requirements
  rw [ResourceRequirements.mk.injEq]
  exact and_rotate

/-- A fragment gives no requirements, or gives none of the three kinds. -/
theorem forall_resources_iff (s : Settings) :
    (∀ given, s.resources = some given →
      given.limits = none ∧ given.requests = none ∧ given.claims = none) ↔ s.requirements = {} := by
  rw [requirements_eq_empty_iff]
  unfold requirements
  cases s.resources <;> simp

theorem namedAccount?_eq_none_iff (s : Settings) :
    s.namedAccount? = none ↔ s.serviceAccount.getD "" = "" := by
  unfold namedAccount?
  cases s.serviceAccount <;> simp [Option.filter]

theorem namedAccount?_merge (fragments : List Settings) :
    (merge fragments).namedAccount? = fragments.findSome? namedAccount? := by
  refine view_foldl (fun account : Option String => account.filter (· ≠ "")) namedAccount? _
    ?_ none fragments
  intro account f
  cases account with
  | none => simp [namedAccount?]
  | some account => by_cases empty : account = "" <;> simp [namedAccount?, Option.filter, empty]

theorem namedAccount?_merge_eq_none (fragments : List Settings) :
    (merge fragments).namedAccount? = none ↔ ∀ f ∈ fragments, f.namedAccount? = none := by
  rw [namedAccount?_merge, List.findSome?_eq_none_iff]

/-- As long as no service account is named, that of the next fragment replaces the one so far. -/
theorem serviceAccount_merge (fragments : List Settings)
    (unnamed : ∀ f ∈ fragments, f.namedAccount? = none) :
    (merge fragments).serviceAccount = fragments.getLast?.bind (·.serviceAccount) := by
  rcases List.eq_nil_or_concat fragments with rfl | ⟨front, last, rfl⟩
  · rfl
  · have front_unnamed := (namedAccount?_merge_eq_none front).2
      fun f member => unnamed f (by simp [member])
    have replaced := (namedAccount?_eq_none_iff (merge front)).1 front_unnamed
    change mergedServiceAccount (front.concat last) = _
    simp only [List.concat_eq_append, mergedServiceAccount, List.foldl_append, List.foldl_cons,
      List.foldl_nil, List.getLast?_append, List.getLast?_singleton]
    exact if_pos replaced

/-- Merging takes every part from the fragment that it is to be taken from. -/
theorem mergedFrom_merge (fragments : List Settings) : MergedFrom fragments (merge fragments) where
  annotations key := (showsFirst_iff _ _ _).2 (get?_foldl_fill (·.annotations) fragments key)
  labels key := (showsFirst_iff _ _ _).2 (get?_foldl_fill (·.labels) fragments key)
  volumes := distinctBy_eq_firstOfEachName _ _
  volumeMounts := distinctBy_eq_firstOfEachName _ _
  imagePullSecrets := distinctBy_eq_firstOfEachName _ _
  tolerations := rfl
  affinity := (showsFirst_iff _ _ _).2 rfl
  securityContext := (showsFirst_iff _ _ _).2 rfl
  containerSecurityContext := (showsFirst_iff _ _ _).2 rfl
  serviceAccount := (showsFirst_iff _ _ _).2 (namedAccount?_merge fragments)
  unnamedAccount := serviceAccount_merge fragments
  limits key := (showsFirst_iff _ _ _).2 (limit?_merge fragments key)
  requests key := (showsFirst_iff _ _ _).2 (request?_merge fragments key)
  claims := (showsFirst_iff _ _ _).2 (claims_merge fragments)
  noLimits := limits_merge_eq_none fragments
  noRequests := requests_merge_eq_none fragments
  noResources := by
    rw [resources_merge_eq_none, requirements_eq_empty_iff, limits_merge_eq_none,
      requests_merge_eq_none, claims_merge, List.findSome?_eq_none_iff]
    simp only [forall_resources_iff, requirements_eq_empty_iff]
    simp only [forall_and]

/-! ### Nothing else is described -/

theorem ShowsFirst.unique {β : Type} {view : Settings → Option β} {fragments : List Settings}
    {a b : Settings} (first : ShowsFirst view fragments a) (second : ShowsFirst view fragments b) :
    view a = view b := by
  rw [(showsFirst_iff view fragments a).1 first, (showsFirst_iff view fragments b).1 second]

/-- Maps that may be absent are equal if they are absent together and have the same bindings. -/
theorem quantities_ext {a b : Option (SortedMap String)} (absent : a = none ↔ b = none)
    (same : ∀ key, a.bind (·.get? key) = b.bind (·.get? key)) : a = b := by
  cases a with
  | none => exact (absent.1 rfl).symm
  | some a =>
    cases b with
    | none => cases absent.2 rfl
    | some b => exact congrArg some (SortedMap.ext_get? same)

section

variable {fragments : List Settings} {a b : Settings} (first : MergedFrom fragments a)
  (second : MergedFrom fragments b)

include first second

theorem MergedFrom.requirements_unique : a.requirements = b.requirements := by
  have claims := first.claims.unique second.claims
  have limits := quantities_ext (first.noLimits.trans second.noLimits.symm)
    fun key => (first.limits key).unique (second.limits key)
  have requests := quantities_ext (first.noRequests.trans second.noRequests.symm)
    fun key => (first.requests key).unique (second.requests key)
  cases given : a.requirements
  cases others : b.requirements
  rw [given, others] at claims limits requests
  cases claims
  cases limits
  cases requests
  rfl

theorem MergedFrom.resources_unique : a.resources = b.resources := by
  have absent := first.noResources.trans second.noResources.symm
  have same := first.requirements_unique second
  cases given : a.resources with
  | none => exact (absent.1 given).symm
  | some r =>
    cases others : b.resources with
    | none => cases (absent.2 others).symm.trans given
    | some r' =>
      unfold requirements at same
      rw [given, others] at same
      exact congrArg some same

theorem MergedFrom.serviceAccount_unique : a.serviceAccount = b.serviceAccount := by
  have named := first.serviceAccount.unique second.serviceAccount
  by_cases none_named : ∀ f ∈ fragments, f.namedAccount? = none
  · rw [first.unnamedAccount none_named, second.unnamedAccount none_named]
  · have shown := (showsFirst_iff _ _ _).1 first.serviceAccount
    rw [← List.findSome?_eq_none_iff, ← shown] at none_named
    obtain ⟨account, found⟩ := Option.ne_none_iff_exists'.1 none_named
    rw [(Option.filter_eq_some_iff.1 found).1,
      (Option.filter_eq_some_iff.1 (named.symm.trans found)).1]

/-- The description leaves no choice. -/
theorem MergedFrom.unique : a = b := by
  have annotations := SortedMap.ext_get? fun key =>
    (first.annotations key).unique (second.annotations key)
  have labels := SortedMap.ext_get? fun key => (first.labels key).unique (second.labels key)
  have affinity := first.affinity.unique second.affinity
  have securityContext := first.securityContext.unique second.securityContext
  have containerSecurityContext :=
    first.containerSecurityContext.unique second.containerSecurityContext
  have resources := first.resources_unique second
  have serviceAccount := first.serviceAccount_unique second
  have volumes := first.volumes.trans second.volumes.symm
  have volumeMounts := first.volumeMounts.trans second.volumeMounts.symm
  have imagePullSecrets := first.imagePullSecrets.trans second.imagePullSecrets.symm
  have tolerations := first.tolerations.trans second.tolerations.symm
  cases a
  cases b
  rw [Settings.mk.injEq]
  exact ⟨affinity, annotations, containerSecurityContext, imagePullSecrets, labels, resources,
    securityContext, serviceAccount, tolerations, volumeMounts, volumes⟩

end

/-- Fragments are merged as described, whatever they are, and the description allows no other
result. -/
theorem mergedFrom_iff (fragments : List Settings) (merged : Settings) :
    MergedFrom fragments merged ↔ merged = merge fragments := by
  constructor
  · intro described
    exact described.unique (mergedFrom_merge fragments)
  · rintro rfl
    exact mergedFrom_merge fragments

/-- An empty service account gives way, an empty map of limits is kept, and requirements that say
nothing are not. -/
example :
    (merge [{ serviceAccount := some "" }, { serviceAccount := some "tracing" }]).serviceAccount =
        some "tracing" ∧
      (merge [{ resources := some {} }, { resources := some { limits := some ∅ } }]).resources =
        some { limits := some ∅ } ∧
      (merge [{ resources := some {} }]).resources = none := by
  decide

end Settings

end TracingSidecar
