import TracingSidecar.Injection.Inject
import TracingSidecar.Proofs.Agent.TagCodec
import TracingSidecar.Proofs.Object.Views

/-!
# Building the sidecar again

The agent container depends on the workload only through its default tags, and on an earlier agent
container only through the tags and the fields that it hands on.  Built from the container that it
gave, the sidecar is the same again (`sidecar_again`), provided that the tags survive their text;
they do when none of the names that go into them contains a comma (`plain_defaultTags`).
-/

namespace TracingSidecar

/-- No name that goes into the agent's tags contains a comma. -/
structure Workload.PlainNames (w : Workload) : Prop where
  namespaceName : ∀ name, w.metadata.namespaceName = some name → ',' ∉ name.toList
  name : ',' ∉ w.anyName.toList
  containers : ∀ c ∈ w.containers, ',' ∉ c.name.toList

/-- A workload that keeps its namespace and its name has plain names if its containers have. -/
theorem Workload.PlainNames.of_identity {w later : Workload} (plain : w.PlainNames)
    (same_namespace : later.metadata.namespaceName = w.metadata.namespaceName)
    (same_name : later.anyName = w.anyName)
    (containers : ∀ c ∈ later.containers, ',' ∉ c.name.toList) : later.PlainNames := by
  refine ⟨?_, ?_, containers⟩
  · rw [same_namespace]
    exact plain.namespaceName
  · rw [same_name]
    exact plain.name

theorem Workload.PlainNames.namespaceOrDefault {w : Workload} (plain : w.PlainNames) :
    ',' ∉ w.namespaceOrDefault.toList := by
  unfold Workload.namespaceOrDefault
  cases given : w.metadata.namespaceName with
  | none => decide
  | some name =>
    by_cases empty : name = ""
    · simp only [Option.filter, empty]
      decide
    · simpa [Option.filter, empty] using plain.namespaceName name given

namespace Agent

/-- The tag that names the workload, if its kind has one. -/
def insertName (w : Workload) (tags : Tags) : Tags :=
  match w.kind.nameTag? with
  | some key => tags.insert key w.anyName
  | none => tags

/-- The tag that names the first application container, if there is one. -/
def insertContainer (w : Workload) (tags : Tags) : Tags :=
  match w.containers.find? (!·.isAgent) with
  | some container => tags.insert "container.name" container.name
  | none => tags

/-- The tags that every workload of a namespace has. -/
def commonTags (namespaceName : String) : Tags :=
  Tags.empty
    |>.insert "cluster" "undefined"
    |>.insert "pod.namespace" namespaceName
    |>.insert "pod.name" (reference podNameVariable)
    |>.insert "host.ip" (reference hostIpVariable)

theorem defaultTags_eq (w : Workload) :
    defaultTags w = insertContainer w (insertName w (commonTags w.namespaceOrDefault)) := rfl

theorem plain_commonTags (namespaceName : String) (plain : ',' ∉ namespaceName.toList) :
    (commonTags namespaceName).Plain := by
  have start := Tags.plain_empty
  have cluster := Tags.plain_insert _ "cluster" "undefined" start
    ⟨by decide, by decide, by decide, by decide⟩
  have namespaced := Tags.plain_insert _ "pod.namespace" namespaceName cluster
    ⟨by decide, by decide, by decide, plain⟩
  have named := Tags.plain_insert _ "pod.name" (reference podNameVariable) namespaced
    ⟨by decide, by decide, by decide, by decide⟩
  exact Tags.plain_insert _ "host.ip" (reference hostIpVariable) named
    ⟨by decide, by decide, by decide, by decide⟩

theorem plain_insertName (w : Workload) (tags : Tags) (plain : tags.Plain)
    (no_comma : ',' ∉ w.anyName.toList) : (insertName w tags).Plain := by
  unfold insertName
  cases kind : w.kind with
  | pod => exact plain
  | deployment | statefulSet | daemonSet =>
    exact Tags.plain_insert _ _ _ plain ⟨by decide, by decide, by decide, no_comma⟩

theorem plain_insertContainer (w : Workload) (tags : Tags) (plain : tags.Plain)
    (no_comma : ∀ c ∈ w.containers, ',' ∉ c.name.toList) : (insertContainer w tags).Plain := by
  unfold insertContainer
  split
  next container found =>
    have member := List.mem_of_find?_eq_some found
    exact Tags.plain_insert _ _ _ plain
      ⟨by decide, by decide, by decide, no_comma container member⟩
  next => exact plain

/-- The default tags of a workload with plain names survive their text. -/
theorem plain_defaultTags (w : Workload) (plain : w.PlainNames) : (defaultTags w).Plain := by
  rw [defaultTags_eq]
  apply plain_insertContainer _ _ _ plain.containers
  apply plain_insertName _ _ _ plain.name
  exact plain_commonTags _ plain.namespaceOrDefault

/-- What the default tags are read from. -/
theorem defaultTags_congr (w later : Workload) (kind : later.kind = w.kind)
    (name : later.anyName = w.anyName)
    (namespaceName : later.namespaceOrDefault = w.namespaceOrDefault)
    (first : (later.containers.find? (!·.isAgent)).map (·.name) =
      (w.containers.find? (!·.isAgent)).map (·.name)) :
    defaultTags later = defaultTags w := by
  have named : ∀ tags, insertName later tags = insertName w tags := by
    intro tags
    unfold insertName
    rw [kind, name]
  have contained : ∀ tags, insertContainer later tags = insertContainer w tags := by
    intro tags
    unfold insertContainer
    cases found : w.containers.find? (!·.isAgent) with
    | none =>
      rw [found, Option.map_none, Option.map_eq_none_iff] at first
      rw [first]
    | some container =>
      rw [found, Option.map_some] at first
      obtain ⟨other, other_found, same_name⟩ := Option.map_eq_some_iff.1 first
      rw [other_found]
      simp only [same_name]
  rw [defaultTags_eq, defaultTags_eq, named, contained, namespaceName]

/-- Arguments that got their tags once get the same tags from the container that carries them. -/
theorem addTags_again (w later : Workload) (existing : Option Container) (carrier : Container)
    (args : List String) (same : defaultTags later = defaultTags w)
    (plain : (defaultTags w).Plain)
    (carried : carrier.args = some (addTags w existing args).mergeSort) :
    addTags later (some carrier) args = addTags w existing args := by
  unfold addTags at carried ⊢
  split
  next => rfl
  next untagged =>
    rw [if_neg untagged] at carried
    have absent : findArgument? tagsFlag args = none := by simpa using untagged
    have old_plain := Tags.plain_ofArgs ((existing.bind (·.args)).getD [])
    have merged_plain := Tags.plain_merge _ _ old_plain plain
    have read := Tags.ofArgs_of_perm _ args _ merged_plain absent (List.mergeSort_perm _ (· ≤ ·))
    simp only [Option.bind_some, carried, Option.getD_some, read, same, Tags.merge_merge]

end Agent

namespace InjectorConfig

/-- Built from the container that it gave, for a workload with the same default tags, the sidecar is
the same again. -/
theorem sidecar_again (config : InjectorConfig) (i : TracingInstance) (w later : Workload)
    (existing : Option Container) (same : Agent.defaultTags later = Agent.defaultTags w)
    (plain : (Agent.defaultTags w).Plain) :
    config.sidecar i later (some (config.sidecar i w existing)) = config.sidecar i w existing := by
  have arguments := Agent.addTags_again w later existing (config.sidecar i w existing)
    (config.connectionArgs i) same plain rfl
  unfold sidecar at arguments ⊢
  simp only [arguments, Option.bind_some]

@[simp] theorem isAgent_sidecar (config : InjectorConfig) (i : TracingInstance) (w : Workload)
    (existing : Option Container) : (config.sidecar i w existing).isAgent = true := by
  simp [sidecar, Container.isAgent]

end InjectorConfig

end TracingSidecar
