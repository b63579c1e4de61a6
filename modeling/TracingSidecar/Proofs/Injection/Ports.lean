import TracingSidecar.Proofs.Injection.ExplicitOptions

/-!
# The ports that a sidecar declares

The ports of a sidecar are read before its tags are added and its arguments are sorted, yet they
have to be those that the agent listens on when it is started with the final arguments.  They are
(`ports_of_final_args`): no default has the flag of a port, so that the options alone decide which
argument is found, and those are in order from the beginning.  Whatever is in the arguments, what is
declared is a port number (`isPort_containerPorts`).
-/

namespace TracingSidecar

namespace Agent

/-! ### The range of a port -/

/-- A number that a port may have. -/
def IsPort (number : Int32) : Prop := 1 ≤ number.toInt ∧ number.toInt ≤ 65535

instance (number : Int32) : Decidable (IsPort number) :=
  inferInstanceAs (Decidable (1 ≤ number.toInt ∧ number.toInt ≤ 65535))

/-- A number that is read as a port is in its range, whatever the text. -/
theorem isPort_of_portNumber? (text : String) (number : Int32)
    (read : portNumber? text = some number) : IsPort number := by
  unfold portNumber? at read
  split at read
  next value _ =>
    split at read
    next in_range =>
      cases read
      have exact_value : (Int32.ofInt value).toInt = value :=
        Int32.toInt_ofInt_of_le (by omega) (by omega)
      rw [IsPort, exact_value]
      exact in_range
    next => cases read
  next => cases read

section

variable (args : List String) (fallback : Int32) (in_range : IsPort fallback)

include in_range

theorem isPort_getD (read : Option Int32) (ports : ∀ number, read = some number → IsPort number) :
    IsPort (read.getD fallback) := by
  cases read with
  | none => exact in_range
  | some number => exact ports number rfl

theorem isPort_port (flag : String) : IsPort (port flag args fallback) := by
  apply isPort_getD fallback in_range
  intro number read
  obtain ⟨parts, -, number_read⟩ := Option.bind_eq_some_iff.1 read
  exact isPort_of_portNumber? parts.2 number number_read

theorem isPort_adminPort : IsPort (adminPort args fallback) := by
  unfold adminPort
  split
  · exact isPort_port args fallback in_range adminHttpFlag
  · apply isPort_getD fallback in_range
    intro number read
    obtain ⟨text, -, number_read⟩ := Option.bind_eq_some_iff.1 read
    exact isPort_of_portNumber? text number number_read

end

/-- Every port that is declared under some arguments is in range. -/
theorem isPort_containerPorts (args : List String) (declared : ContainerPort)
    (member : declared ∈ containerPorts args) : IsPort declared.containerPort := by
  simp only [containerPorts, List.mem_cons, List.not_mem_nil, or_false] at member
  rcases member with rfl | rfl | rfl | rfl | rfl
  · exact isPort_port args zipkinCompactPort (by decide) zipkinCompactFlag
  · exact isPort_port args configRestPort (by decide) configRestFlag
  · exact isPort_port args jaegerCompactPort (by decide) jaegerCompactFlag
  · exact isPort_port args jaegerBinaryPort (by decide) jaegerBinaryFlag
  · exact isPort_adminPort args adminHttpPort (by decide)

/-- A port that is out of range is not declared; the default is. -/
example : (containerPorts ["--http-server.host-port=:70000"]).map (·.containerPort) =
    [5775, 5778, 6831, 6832, 14271] := by
  decide +kernel

/-! ### The flags of the ports -/

/-- The flags that ports are read from. -/
def portFlags : List String :=
  [zipkinCompactFlag, configRestFlag, jaegerCompactFlag, jaegerBinaryFlag, adminHttpFlag,
    adminPortFlag]

/-- Ports depend on what is found of their flags. -/
theorem containerPorts_congr (args others : List String)
    (same : ∀ flag ∈ portFlags, findArgument? flag others = findArgument? flag args) :
    containerPorts others = containerPorts args := by
  simp only [containerPorts, adminPort, port, same zipkinCompactFlag (by decide),
    same configRestFlag (by decide), same jaegerCompactFlag (by decide),
    same jaegerBinaryFlag (by decide), same adminHttpFlag (by decide),
    same adminPortFlag (by decide)]

/-- No flag of a port can be mistaken for one that gets a default. -/
theorem apart_of_mem_portFlags : ∀ flag ∈ portFlags, Apart flag defaultedFlags := by
  decide

end Agent

open Agent

namespace InjectorConfig

variable (config : InjectorConfig) (i : TracingInstance) (w : Workload)
  (existing : Option Container)

/-- What is found of a flag without a default among the final arguments was found before the tags
were added and all were sorted. -/
theorem findArgument?_final (flag : String) (apart : Apart flag defaultedFlags) :
    findArgument? flag
        (i.spec.agent.options.toArgs ++ config.defaultArgs i w existing).mergeSort =
      findArgument? flag (config.connectionArgs i) := by
  have unset := not_mem_of_apart flag _ _ apart (config.isFlagged_defaultArgs i w existing)
  have apart_connection : Apart flag connectionFlags :=
    fun other listed => apart other (List.mem_append_left [tagsFlag] listed)
  have ascending : i.spec.agent.options.toArgs.Pairwise (· ≤ ·) := Text.pairwise_mergeSort _
  rw [config.findArgument?_connectionArgs i flag apart_connection,
    findArgument?_sorted_append flag _ _ ascending unset]

end InjectorConfig

end TracingSidecar
