import TracingSidecar.Proofs.Agent.Arguments
import TracingSidecar.Proofs.Injection.FixedPoint

/-!
# Options and defaults

The arguments of the sidecar are those that the options of the instance ask for and the defaults of
`InjectorConfig.defaultArgs`, sorted together.  A flag that the options set gets no default, with
one exception: the path of the trusted certificates comes with the flag that switches encryption on,
whether it is set itself or not.  As the first of several values counts, and values are sorted, that
default wins where it is the smaller one (`explicit_options_win_iff`).
-/

namespace TracingSidecar

open Agent

/-- Whether the options of an instance set a flag. -/
def TracingInstance.sets (flag : String) (i : TracingInstance) : Bool :=
  (findArgument? flag i.spec.agent.options.toArgs).isSome

namespace InjectorConfig

variable (config : InjectorConfig) (i : TracingInstance) (w : Workload)
  (existing : Option Container)

/-! ### The arguments of a sidecar -/

/-- Whether encryption is switched on by default. -/
def switchesTlsOn : Bool := config.addsCaVolumes && !i.sets tlsEnabledFlag

theorem switchesTlsOn_iff : config.switchesTlsOn i = true ↔
    config.platform = .openShift ∧
      findArgument? tlsEnabledFlag i.spec.agent.options.toArgs = none := by
  simp [switchesTlsOn, addsCaVolumes, TracingInstance.sets]

/-- The defaults for how the collector is reached. -/
def defaultConnection : List String :=
  (if i.sets collectorFlag then [] else [collectorFlag ++ i.collectorAddress]) ++
    if config.switchesTlsOn i then [tlsEnabledFlag ++ "true", tlsCaFlag ++ serviceCaPath] else []

/-- The default tags, over those of an earlier sidecar. -/
def defaultTagging : List String :=
  if i.sets tagsFlag then []
  else [((Tags.ofArgs ((existing.bind (·.args)).getD [])).merge (defaultTags w)).toArgument]

/-- The arguments that a sidecar gets by default. -/
def defaultArgs : List String := config.defaultConnection i ++ defaultTagging i w existing

/-- A default is for the collector, if that is not set, or one of the two that come with
encryption. -/
theorem mem_defaultConnection (argument : String)
    (member : argument ∈ config.defaultConnection i) :
    (argument = collectorFlag ++ i.collectorAddress ∧ i.sets collectorFlag = false) ∨
      config.switchesTlsOn i = true ∧
        (argument = tlsEnabledFlag ++ "true" ∨ argument = tlsCaFlag ++ serviceCaPath) := by
  unfold defaultConnection at member
  rcases List.mem_append.1 member with collector | encryption
  · split at collector
    · cases collector
    next unset => exact Or.inl ⟨List.mem_singleton.1 collector, by simpa using unset⟩
  · split at encryption
    next switched => exact Or.inr ⟨switched, by simpa using encryption⟩
    · cases encryption

theorem isFlagged_defaultConnection (argument : String)
    (member : argument ∈ config.defaultConnection i) : IsFlagged connectionFlags argument := by
  rcases config.mem_defaultConnection i argument member with ⟨collector, -⟩ | ⟨-, enabled | ca⟩
  · exact ⟨collectorFlag, by decide, _, collector⟩
  · exact ⟨tlsEnabledFlag, by decide, _, enabled⟩
  · exact ⟨tlsCaFlag, by decide, _, ca⟩

/-- Every default is for one of the flags that get one. -/
theorem isFlagged_defaultArgs (argument : String)
    (member : argument ∈ config.defaultArgs i w existing) : IsFlagged defaultedFlags argument := by
  rcases List.mem_append.1 member with connection | tagging
  · obtain ⟨flag, listed, value, rfl⟩ := config.isFlagged_defaultConnection i argument connection
    exact ⟨flag, List.mem_append_left [tagsFlag] listed, value, rfl⟩
  · unfold defaultTagging at tagging
    split at tagging
    · cases tagging
    · exact ⟨tagsFlag, by decide, _, List.mem_singleton.1 tagging⟩

theorem connectionArgs_eq :
    config.connectionArgs i = i.spec.agent.options.toArgs ++ config.defaultConnection i := by
  let options := i.spec.agent.options.toArgs
  let collector := if i.sets collectorFlag then [] else [collectorFlag ++ i.collectorAddress]
  have with_collector : (if (findArgument? collectorFlag options).isSome then options
      else options ++ [collectorFlag ++ i.collectorAddress]) = options ++ collector := by
    unfold collector TracingInstance.sets
    split <;> simp
  have unrelated (value : String) : tlsEnabledFlag ++ value ∉ collector := by
    unfold collector
    split
    · exact List.not_mem_nil
    · intro member
      have same := flag_eq_of_append _ _ _ _ (by decide) (by decide) (List.mem_singleton.1 member)
      exact absurd same (by decide)
  have still_unset : (findArgument? tlsEnabledFlag (options ++ collector)).isNone =
      !i.sets tlsEnabledFlag := by
    rw [findArgument?_append tlsEnabledFlag options collector unrelated, TracingInstance.sets,
      Option.not_isSome]
  unfold connectionArgs
  dsimp only
  rw [with_collector, still_unset, ← switchesTlsOn]
  unfold defaultConnection
  split <;> simp [collector, options]

/-- Of a flag that tells nothing about the collector, the options alone decide what is found. -/
theorem findArgument?_connectionArgs (flag : String) (apart : Apart flag connectionFlags) :
    findArgument? flag (config.connectionArgs i) =
      findArgument? flag i.spec.agent.options.toArgs := by
  rw [connectionArgs_eq]
  exact findArgument?_append flag _ _
    (not_mem_of_apart flag _ _ apart (config.isFlagged_defaultConnection i))

/-- The arguments of an injected sidecar are the options and the defaults, sorted together. -/
theorem args_placed : (config.placed i w).args = some (i.spec.agent.options.toArgs ++
    config.defaultArgs i (config.prepare i w) w.agent?).mergeSort := by
  have still_set := config.findArgument?_connectionArgs i tagsFlag (by decide)
  rw [placed, config.agent?_prepare]
  unfold sidecar addTags defaultArgs defaultTagging TracingInstance.sets
  dsimp only
  rw [still_set, connectionArgs_eq]
  split <;> simp

/-- Of the flags that are set, only that of the certificates may get a default all the same. -/
theorem mem_defaultArgs_of_set (flag : String) (listed : flag ∈ defaultedFlags)
    (set : i.sets flag = true) (value : String) :
    flag ++ value ∈ config.defaultArgs i w existing ↔
      flag = tlsCaFlag ∧ value = serviceCaPath ∧ config.switchesTlsOn i = true := by
  constructor
  · intro member
    rcases List.mem_append.1 member with connection | tagging
    · rcases config.mem_defaultConnection i _ connection with
        ⟨collector, unset⟩ | ⟨switched, enabled | ca⟩
      · rw [flag_eq_of_append _ _ _ _ listed (by decide) collector, unset] at set
        cases set
      · have unset : i.sets tlsEnabledFlag = false := by
          simpa using (Bool.and_eq_true_iff.1 switched).2
        rw [flag_eq_of_append _ _ _ _ listed (by decide) enabled, unset] at set
        cases set
      · have same := flag_eq_of_append _ _ _ _ listed (by decide) ca
        rw [same] at ca
        exact ⟨same, (String.append_right_inj _).1 ca, switched⟩
    · unfold defaultTagging at tagging
      split at tagging
      · cases tagging
      next unset =>
        rw [flag_eq_of_append _ _ _ _ listed (by decide) (List.mem_singleton.1 tagging)] at set
        exact absurd set unset
  · rintro ⟨rfl, rfl, switched⟩
    apply List.mem_append_left
    apply List.mem_append_right
    simp [switched]

/-- Among options and defaults that are sorted together, the value of an option is found unless a
default of its flag is smaller. -/
theorem findArgument?_sorted_of_set (flag : String) (listed : flag ∈ defaultedFlags)
    (value : String) (found : findArgument? flag i.spec.agent.options.toArgs = some value) :
    let args := (i.spec.agent.options.toArgs ++ config.defaultArgs i w existing).mergeSort
    let smaller :=
      flag = tlsCaFlag ∧ config.switchesTlsOn i = true ∧ serviceCaPath < value
    (¬smaller → findArgument? flag args = some value) ∧
      (smaller → findArgument? flag args = some serviceCaPath) := by
  intro args smaller
  have set : i.sets flag = true := by rw [TracingInstance.sets, found, Option.isSome_some]
  obtain ⟨given, least⟩ :=
    (findArgument?_of_sorted flag _ (Text.pairwise_mergeSort _) value).1 found
  have candidates (other : String) : flag ++ other ∈ args ↔
      flag ++ other ∈ i.spec.agent.options.toArgs ∨
        flag = tlsCaFlag ∧ other = serviceCaPath ∧ config.switchesTlsOn i = true := by
    rw [List.mem_mergeSort, List.mem_append,
      config.mem_defaultArgs_of_set i w existing flag listed set]
  have found_iff := findArgument?_of_sorted flag args (Text.pairwise_mergeSort _)
  constructor
  · intro not_smaller
    refine (found_iff value).2 ⟨(candidates value).2 (Or.inl given), ?_⟩
    intro other member
    rcases (candidates other).1 member with option | ⟨ca, rfl, switched⟩
    · exact least other option
    · exact String.not_lt.1 fun below => not_smaller ⟨ca, switched, below⟩
  · rintro ⟨ca, switched, below⟩
    refine (found_iff serviceCaPath).2 ⟨(candidates _).2 (Or.inr ⟨ca, rfl, switched⟩), ?_⟩
    intro other member
    rcases (candidates other).1 member with option | ⟨-, rfl, -⟩
    · exact String.le_trans (String.not_lt.1 (String.lt_asymm below)) (least other option)
    · exact String.le_refl _

end InjectorConfig

/-- The arguments of an injected sidecar are the options of the instance and defaults, in ascending
order.  A flag that the options set gets no default, except for that of the certificates where the
platform switches encryption on; and the value that the options give is found, except where this
default is smaller. -/
theorem explicit_options_win_iff (config : InjectorConfig) (i : TracingInstance) (w : Workload) :
    let options := i.spec.agent.options.toArgs
    let added := config.defaultArgs i (config.prepare i w) w.agent?
    let overridden (flag : String) : Prop :=
      flag = tlsCaFlag ∧ config.platform = .openShift ∧ findArgument? tlsEnabledFlag options = none
    ∃ sidecar args, (config.inject i w).agent? = some sidecar ∧ sidecar.args = some args ∧
      args.Pairwise (· ≤ ·) ∧ args.Perm (options ++ added) ∧
      ∀ flag ∈ defaultedFlags, ∀ value, findArgument? flag options = some value →
        ((∀ other, flag ++ other ∉ added) ↔ ¬overridden flag) ∧
        (¬(overridden flag ∧ serviceCaPath < value) → findArgument? flag args = some value) ∧
        (overridden flag ∧ serviceCaPath < value →
          findArgument? flag args = some serviceCaPath) := by
  intro options added overridden
  refine ⟨config.placed i w, (options ++ added).mergeSort, config.agent?_inject i w,
    config.args_placed i w, Text.pairwise_mergeSort _, List.mergeSort_perm _ _, ?_⟩
  intro flag listed value found
  have set : i.sets flag = true := by rw [TracingInstance.sets, found, Option.isSome_some]
  have overridden_iff : overridden flag ↔ flag = tlsCaFlag ∧ config.switchesTlsOn i = true := by
    rw [config.switchesTlsOn_iff]
  have has_default := config.mem_defaultArgs_of_set i (config.prepare i w) w.agent? flag listed set
  have wins := config.findArgument?_sorted_of_set i (config.prepare i w) w.agent? flag listed value
    found
  refine ⟨?_, ?_⟩
  · rw [overridden_iff]
    constructor
    · rintro no_default ⟨ca, switched⟩
      exact no_default serviceCaPath ((has_default serviceCaPath).2 ⟨ca, rfl, switched⟩)
    · intro kept other member
      obtain ⟨ca, -, switched⟩ := (has_default other).1 member
      exact kept ⟨ca, switched⟩
  · rw [overridden_iff, and_assoc]
    exact wins

/-- An instance whose agent has one option. -/
def Sample.instanceWith (key value : String) : TracingInstance :=
  { instanceAt "tracing" "prod" with
    spec := { agent := { options := Options.empty.insert key value } } }

/-- Where the options switch encryption off, it stays off. -/
theorem explicit_options_win_iff_disabled :
    let config : InjectorConfig := { platform := .openShift }
    let i := Sample.instanceWith "reporter.grpc.tls.enabled" "false"
    ∃ sidecar args, (config.inject i Sample.shop).agent? = some sidecar ∧
      sidecar.args = some args ∧ findArgument? tlsEnabledFlag args = some "false" := by
  intro config i
  obtain ⟨sidecar, args, placed, rendered, -, -, wins⟩ :=
    explicit_options_win_iff config i Sample.shop
  have found : findArgument? tlsEnabledFlag i.spec.agent.options.toArgs = some "false" := by
    decide +kernel
  obtain ⟨-, kept, -⟩ := wins tlsEnabledFlag (by decide) "false" found
  refine ⟨sidecar, args, placed, rendered, kept ?_⟩
  rintro ⟨⟨is_ca, -⟩, -⟩
  exact absurd is_ca (by decide)

/-- Where the options set the certificates and nothing else, the default is put before them. -/
theorem explicit_ca_loses :
    let config : InjectorConfig := { platform := .openShift }
    let i := Sample.instanceWith "reporter.grpc.tls.ca" "/var/run/ca.crt"
    let args := ((config.inject i Sample.shop).agent?.bind (·.args)).getD []
    findArgument? tlsCaFlag i.spec.agent.options.toArgs = some "/var/run/ca.crt" ∧
      tlsCaFlag ++ serviceCaPath ∈
        config.defaultArgs i (config.prepare i Sample.shop) Sample.shop.agent? ∧
      findArgument? tlsCaFlag args = some serviceCaPath := by
  intro config i args
  have found : findArgument? tlsCaFlag i.spec.agent.options.toArgs = some "/var/run/ca.crt" := by
    decide +kernel
  have added : tlsCaFlag ++ serviceCaPath ∈
      config.defaultArgs i (config.prepare i Sample.shop) Sample.shop.agent? := by
    decide +kernel
  have rendered : args = (i.spec.agent.options.toArgs ++
      config.defaultArgs i (config.prepare i Sample.shop) Sample.shop.agent?).mergeSort := by
    simp only [args, config.agent?_inject, Option.bind_some, config.args_placed, Option.getD_some]
  have switched : config.switchesTlsOn i = true := by decide +kernel
  have smaller : serviceCaPath < "/var/run/ca.crt" := by decide +kernel
  obtain ⟨-, loses⟩ := config.findArgument?_sorted_of_set i (config.prepare i Sample.shop)
    Sample.shop.agent? tlsCaFlag (by decide) _ found
  rw [rendered]
  exact ⟨found, added, loses ⟨rfl, switched, smaller⟩⟩

end TracingSidecar
