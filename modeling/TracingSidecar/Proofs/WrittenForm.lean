import TracingSidecar.Instance

/-!
# The written form of an instance

What an instance is meant to be is written as one object, in which the settings stand beside the
members of its own: they are flattened into it, and so are the settings of the agent into the object
of the agent.  No member of a fragment has the name of an own member, so nothing is hidden, and what
is written determines the object (`Flattened.unique`).  The options of the agent stay under their
flat names.  Reading the object gives back what was written
(`InstanceSpec.decode_encode_flattened`).
-/

namespace TracingSidecar

/-! ### Members of a record by their names -/

namespace Shape

variable {σ τ : Type}

/-- What a record shows under a name. -/
def shown {σ τ : Type} : Shape σ τ → τ → String → Option Json
  | .nil, _, _ => none
  | .cons own member rest, (value, values), name =>
      if name = own then member.write value else rest.shown values name

theorem lookup_write (shape : Shape σ τ) (ascend : ascending shape.names = true) (values : τ)
    (name : String) : (shape.write values).lookup name = shape.shown values name := by
  induction shape with
  | nil => rfl
  | cons own member rest ih =>
    obtain ⟨value, values⟩ := values
    rw [lookup_write_cons ascend, ih (ascending_tail ascend) values]
    rfl

end Shape

/-! ### Flattened fragments -/

/-- An object shows some members of its own and under all other names the members of a fragment,
which has none of those names itself. -/
structure Flattened (own : List (String × Option Json)) (fragment whole : Json) : Prop where
  own_shown : ∀ member ∈ own, whole.member? member.1 = member.2
  own_apart : ∀ member ∈ own, fragment.member? member.1 = none
  others_shown : ∀ name, name ∉ own.map (·.1) → whole.member? name = fragment.member? name

theorem Flattened.of_shown {σ τ ρ υ : Type} (own : List (String × Option Json))
    (fragment : Shape σ τ) (whole : Shape ρ υ)
    (fragment_ascend : Shape.ascending fragment.names = true)
    (whole_ascend : Shape.ascending whole.names = true) (settings : τ) (values : υ)
    (own_shown : ∀ member ∈ own, whole.shown values member.1 = member.2)
    (own_apart : ∀ member ∈ own, fragment.shown settings member.1 = none)
    (others_shown : ∀ name, name ∉ own.map (·.1) →
      whole.shown values name = fragment.shown settings name) :
    Flattened own (.obj (fragment.write settings)) (.obj (whole.write values)) := by
  have whole_member := whole.lookup_write whole_ascend values
  have fragment_member := fragment.lookup_write fragment_ascend settings
  constructor
  · intro member listed
    exact (whole_member member.1).trans (own_shown member listed)
  · intro member listed
    exact (fragment_member member.1).trans (own_apart member listed)
  · intro name other
    exact (whole_member name).trans ((others_shown name other).trans (fragment_member name).symm)

/-- There is one object at most with some members of its own and a fragment. -/
theorem Flattened.unique (own : List (String × Option Json)) (fragment : Json)
    (members others : List (String × Json)) (ascend : KeysAscend members)
    (others_ascend : KeysAscend others) (flattened : Flattened own fragment (.obj members))
    (others_flattened : Flattened own fragment (.obj others)) : members = others := by
  apply SortedMap.eq_of_lookup ascend others_ascend
  intro name
  change (Json.obj members).member? name = (Json.obj others).member? name
  by_cases is_own : name ∈ own.map (·.1)
  · obtain ⟨member, listed, rfl⟩ := List.mem_map.1 is_own
    rw [flattened.own_shown member listed, others_flattened.own_shown member listed]
  · rw [flattened.others_shown name is_own, others_flattened.others_shown name is_own]

/-- The written form of an agent: what it has of its own, beside its settings. -/
def AgentSpec.Written (agent : AgentSpec) : Json → Prop :=
  Flattened
    [("image", agent.image.map .str),
      ("options",
        if agent.options = {} then none else some (Agent.Options.codec.encode agent.options)),
      ("sidecarSecurityContext", agent.sidecarSecurityContext.map SecurityContext.codec.encode)]
    (Settings.codec.encode agent.settings)

/-- The written form of what an instance is meant to be: its agent and the way to its query
interface, beside its settings. -/
def InstanceSpec.Written (spec : InstanceSpec) : Json → Prop :=
  Flattened
    [("agent", some (AgentSpec.codec.encode spec.agent)),
      ("ingress", spec.ingress.map Ingress.codec.encode)]
    (Settings.codec.encode spec.settings)

theorem AgentSpec.written_encode (agent : AgentSpec) :
    agent.Written (AgentSpec.codec.encode agent) := by
  refine Flattened.of_shown _ _ _ (by decide) (by decide) _ _ ?_ ?_ ?_
  · simp [Shape.shown, Member.optional, Member.unlessEmpty, Codec.string]
  · simp [Shape.shown]
  · intro name other
    simp only [List.map_cons, List.map_nil, List.mem_cons, List.not_mem_nil, not_or] at other
    simp [Shape.shown, other]

theorem InstanceSpec.written_encode (spec : InstanceSpec) :
    spec.Written (InstanceSpec.codec.encode spec) := by
  refine Flattened.of_shown _ _ _ (by decide) (by decide) _ _ ?_ ?_ ?_
  · simp [Shape.shown, Member.optional, Member.orMissing]
  · simp [Shape.shown]
  · intro name other
    simp only [List.map_cons, List.map_nil, List.mem_cons, List.not_mem_nil, not_or] at other
    simp [Shape.shown, other]

/-! ### Options -/

namespace Agent.Options

theorem lookup_map_valuesJson (entries : List (String × List String)) (key : String) :
    (entries.map fun (key, values) => (key, valuesJson values)).lookup key =
      (entries.lookup key).map valuesJson := by
  induction entries with
  | nil => rfl
  | cons entry rest ih =>
    obtain ⟨k, values⟩ := entry
    rw [List.map_cons, SortedMap.lookup_cons, SortedMap.lookup_cons, ih]
    by_cases same : key = k <;> simp [same]

/-- Options are written under their own names, dots and all. -/
theorem member?_encode (o : Options) (key : String) :
    (codec.encode o).member? key = (o.get? key).map valuesJson :=
  lookup_map_valuesJson o.values.entries key

end Agent.Options

/-! ### There and back -/

/-- An object of the written form is read as what it is the written form of. -/
theorem InstanceSpec.decode_of_written (spec : InstanceSpec) (members : List (String × Json))
    (ascend : KeysAscend members) (written : spec.Written (.obj members)) :
    InstanceSpec.codec.decode (.obj members) = some spec := by
  have encoded : ∃ others, InstanceSpec.codec.encode spec = .obj others ∧ KeysAscend others :=
    ⟨_, rfl, Shape.keysAscend_write _ (by decide) _⟩
  obtain ⟨others, encoded_members, others_ascend⟩ := encoded
  have also_written := spec.written_encode
  rw [encoded_members] at also_written
  rw [Flattened.unique _ _ members others ascend others_ascend written also_written,
    ← encoded_members, Codec.decode_encode]

/-- What an instance is meant to be is read back from its written form.  In it the settings are
flattened into the object, on both levels, and the options keep their names; and any object of that
form is read so. -/
theorem InstanceSpec.decode_encode_flattened (spec : InstanceSpec) :
    InstanceSpec.codec.decode (InstanceSpec.codec.encode spec) = some spec ∧
      spec.Written (InstanceSpec.codec.encode spec) ∧
      spec.agent.Written (AgentSpec.codec.encode spec.agent) ∧
      (∀ key, (Agent.Options.codec.encode spec.agent.options).member? key =
        (spec.agent.options.get? key).map Agent.Options.valuesJson) ∧
      ∀ members, KeysAscend members → spec.Written (.obj members) →
        InstanceSpec.codec.decode (.obj members) = some spec := by
  refine ⟨?_, spec.written_encode, spec.agent.written_encode, ?_, spec.decode_of_written⟩
  · exact Codec.decode_encode InstanceSpec.codec spec
  · exact Agent.Options.member?_encode spec.agent.options

/-- Settings on both levels, and options with an empty key, a dot, an equals sign and any number of
values. -/
def Sample.outline : InstanceSpec where
  settings := { annotations := .ofList [("team", "tracing")] }
  agent :=
    { settings := { labels := .ofList [("tier", "agent")] }
      options := ⟨.ofList [("", []), ("log.level", ["debug"]), ("tags=all", ["a", "b"])]⟩ }
  ingress := some { security := some .open }

theorem InstanceSpec.decode_encode_flattened_outline :
    let members : List (String × Json) :=
      [("agent", .obj
          [("labels", .obj [("tier", .str "agent")]),
            ("options", .obj
              [("", .arr []), ("log.level", .str "debug"),
                ("tags=all", .arr [.str "a", .str "b"])])]),
        ("annotations", .obj [("team", .str "tracing")]),
        ("ingress", .obj [("security", .str "none")])]
    KeysAscend members ∧ Sample.outline.Written (.obj members) ∧
      InstanceSpec.codec.decode (.obj members) = some Sample.outline := by
  intro members
  have ascend : KeysAscend members := by decide
  have form : InstanceSpec.codec.encode Sample.outline = .obj members := by decide
  obtain ⟨-, written, -, -, read⟩ := InstanceSpec.decode_encode_flattened Sample.outline
  rw [form] at written
  exact ⟨ascend, written, read members ascend written⟩

end TracingSidecar
