import TracingSidecar.Proofs.Injection.ExplicitOptions

/-!
# Tags that are kept

A sidecar that is injected in the place of another one keeps the tags of that one, whatever else is
in its arguments and however they were edited, and puts the current default tags over them
(`tags_merged`).  The tags go through their text on the way: they are read from one argument,
written into another and sorted among the rest, and none is lost as long as no default value brings
in a comma.
-/

namespace TracingSidecar

open Agent

/-- The tags of the agent container that a workload has; there are none without an agent. -/
def Workload.agentTags (w : Workload) : Tags := Tags.ofArgs ((w.agent?.bind (·.args)).getD [])

/-- Where the options set no tags, the sidecar gets those of the agent that is there, and the default
ones over them. -/
theorem InjectorConfig.args_placed_of_untagged (config : InjectorConfig) (i : TracingInstance)
    (w : Workload) (unset : i.sets tagsFlag = false) :
    findArgument? tagsFlag (config.connectionArgs i) = none ∧
      (config.placed i w).args = some (config.connectionArgs i ++
        [(w.agentTags.merge (defaultTags w)).toArgument]).mergeSort := by
  have absent : findArgument? tagsFlag (config.connectionArgs i) = none := by
    rw [config.findArgument?_connectionArgs i tagsFlag (by decide)]
    simpa [TracingInstance.sets] using unset
  refine ⟨absent, ?_⟩
  rw [placed, config.agent?_prepare]
  simp [sidecar, addTags, absent, config.defaultTags_prepare i w, Workload.agentTags]

/-- Where the options of the instance set no tags, an injected sidecar has one argument with tags,
and its tags are those of the agent that was there before, with the current default tags of the
workload in the place of those that have their keys. -/
theorem tags_merged (config : InjectorConfig) (i : TracingInstance) (w : Workload)
    (plain : w.PlainNames) (unset : i.sets tagsFlag = false) :
    ∃ sidecar args, (config.inject i w).agent? = some sidecar ∧ sidecar.args = some args ∧
      occurrences tagsFlag args = 1 ∧
      ∀ key, (Tags.ofArgs args).get? key =
        ((defaultTags w).get? key).or (w.agentTags.get? key) := by
  obtain ⟨absent, rendered⟩ := config.args_placed_of_untagged i w unset
  have readable : (w.agentTags.merge (defaultTags w)).Plain :=
    Tags.plain_merge _ _ (Tags.plain_ofArgs _) (plain_defaultTags w plain)
  have read := Tags.ofArgs_of_perm _ _ _ readable absent (List.mergeSort_perm _ (· ≤ ·))
  refine ⟨config.placed i w, _, config.agent?_inject i w, rendered, ?_, ?_⟩
  · exact occurrences_of_perm tagsFlag _ _ _ absent (List.mergeSort_perm _ _)
  · intro key
    rw [read, Tags.get?_merge]

/-- A deployment with an agent whose tags were edited by hand. -/
def Sample.retagged : Workload where
  metadata := { name := some "shop", namespaceName := some "store" }
  body := .deployment (some
    { settings := {}
      template :=
        { spec := some
            { containers :=
                [{ name := "web" },
                  { name := agentName
                    args := some ["--agent.tags=team=blue,no tag,=none,cluster=old",
                      "--agent.tags=team=red"] }] } } })

/-- The sample keeps its own tag and gets the default tags, in one argument. -/
theorem tags_merged_retagged :
    let prod := Sample.instanceAt "tracing" "prod"
    Sample.retagged.PlainNames ∧ prod.sets tagsFlag = false ∧
      ∃ sidecar args, (InjectorConfig.inject {} prod Sample.retagged).agent? = some sidecar ∧
        sidecar.args = some args ∧ occurrences tagsFlag args = 1 ∧
        (Tags.ofArgs args).get? "team" = some "blue" ∧
        (Tags.ofArgs args).get? "cluster" = some "undefined" ∧
        (Tags.ofArgs args).get? "deployment.name" = some "shop" := by
  intro prod
  have plain : Sample.retagged.PlainNames := by
    constructor
    · intro name given
      cases given
      decide
    · decide
    · decide
  have unset : prod.sets tagsFlag = false := by decide +kernel
  obtain ⟨sidecar, args, placed, rendered, once, tags⟩ :=
    tags_merged {} prod Sample.retagged plain unset
  refine ⟨plain, unset, sidecar, args, placed, rendered, once, ?_, ?_, ?_⟩
  · rw [tags]
    decide +kernel
  · rw [tags]
    decide +kernel
  · rw [tags]
    decide +kernel

end TracingSidecar
