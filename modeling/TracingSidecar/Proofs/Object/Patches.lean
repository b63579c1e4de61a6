import TracingSidecar.Object.Workload
import TracingSidecar.Proofs.Json.Patch

/-!
# Patches of written objects

A record follows the change of another one if each of its members does (`turns_record`).  So the
difference of two workloads of one kind and one namespace says nothing about the namespace: made to
the first of them without its namespace, or in another one, it gives the second in just that place
(`Workload.turns_inNamespace`).
-/

namespace TracingSidecar

open Json (Follows Turns)

/-- Any member follows its own change. -/
theorem Member.follows_self {α : Type} (member : Member α) (before after : α) :
    Follows (member.write before) (member.write after) (member.write before)
      (member.write after) := by
  cases old_written : member.write before with
  | none =>
    cases member.write after with
    | none => exact .absent none
    | some new => exact .added new none
  | some old =>
    cases new_written : member.write after with
    | none => exact .removed old old
    | some new =>
      have old_ordered := member.write_ordered before old old_written
      have new_ordered := member.write_ordered after new new_written
      exact .turned old new old new (Json.turns old new old_ordered new_ordered)

namespace Shape

/-- Each member of a record follows the change of another record's member. -/
def Follow {σ τ : Type} : Shape σ τ → (before after held result : τ) → Prop
  | .nil, _, _, _, _ => True
  | .cons _ member rest, (b, before), (a, after), (h, held), (r, result) =>
      Follows (member.write b) (member.write a) (member.write h) (member.write r) ∧
        rest.Follow before after held result

variable {σ τ : Type}

theorem follows_lookup_write (shape : Shape σ τ) (ascend : ascending shape.names = true)
    (before after held result : τ) (follow : shape.Follow before after held result)
    (key : String) : Follows ((shape.write before).lookup key) ((shape.write after).lookup key)
      ((shape.write held).lookup key) ((shape.write result).lookup key) := by
  induction shape with
  | nil => exact .absent none
  | cons name member rest ih =>
    obtain ⟨b, before⟩ := before
    obtain ⟨a, after⟩ := after
    obtain ⟨h, held⟩ := held
    obtain ⟨r, result⟩ := result
    obtain ⟨first_follows, rest_follow⟩ := follow
    simp only [lookup_write_cons ascend]
    split
    · exact first_follows
    · exact ih (ascending_tail ascend) before after held result rest_follow

/-- A record follows the change of another one if each of its members does. -/
theorem turns_record (shape : Shape σ τ) (ascend : ascending shape.names = true)
    (before after held result : τ) (follow : shape.Follow before after held result) :
    Turns (.obj (shape.write before)) (.obj (shape.write after)) (.obj (shape.write held))
      (.obj (shape.write result)) :=
  Json.turns_obj _ _ _ _ (shape.keysAscend_write ascend before)
    (shape.keysAscend_write ascend after) (shape.keysAscend_write ascend held)
    (shape.keysAscend_write ascend result)
    (shape.follows_lookup_write ascend before after held result follow)

end Shape

/-! ### Objects in namespaces -/

/-- The metadata of an object in a namespace, or in none. -/
def ObjectMeta.inNamespace (name : Option String) (m : ObjectMeta) : ObjectMeta :=
  { m with namespaceName := name }

/-- A workload in a namespace, or in none. -/
def Workload.inNamespace (name : Option String) (w : Workload) : Workload :=
  w.modifyMetadata (·.inNamespace name)

@[simp] theorem Workload.kind_inNamespace (name : Option String) (w : Workload) :
    (w.inNamespace name).kind = w.kind := rfl

@[simp] theorem Workload.inNamespace_inNamespace (name other : Option String) (w : Workload) :
    (w.inNamespace other).inNamespace name = w.inNamespace name := rfl

@[simp] theorem Workload.inNamespace_self (w : Workload) :
    w.inNamespace w.metadata.namespaceName = w := rfl

/-- A text that stays takes no change, and may be missing where the change is made. -/
theorem follows_same_text (before after : Option String) (same : after = before)
    (held : Option String) :
    Follows ((Member.optional .string).write before) ((Member.optional .string).write after)
      ((Member.optional .string).write held) ((Member.optional .string).write held) := by
  rw [same]
  cases before with
  | none => exact .absent _
  | some text => exact .unchanged (.str text) (.str text) _ fun path => by simp [Json.diffAt]

theorem ObjectMeta.turns_inNamespace (m later : ObjectMeta)
    (same : later.namespaceName = m.namespaceName) (name : Option String) :
    Turns (codec.encode m) (codec.encode later) (codec.encode (m.inNamespace name))
      (codec.encode (later.inNamespace name)) := by
  apply Shape.turns_record _ (by decide)
  have namespaces := follows_same_text m.namespaceName later.namespaceName same name
  exact ⟨Member.follows_self _ _ _, Member.follows_self _ _ _, Member.follows_self _ _ _,
    Member.follows_self _ _ _, Member.follows_self _ _ _, Member.follows_self _ _ _,
    Member.follows_self _ _ _, Member.follows_self _ _ _, namespaces, Member.follows_self _ _ _,
    Member.follows_self _ _ _, Member.follows_self _ _ _, trivial⟩

/-- An object follows the change of another one's metadata, and takes on its specification. -/
theorem Workload.turns_codecOf {σ : Type} (apiVersion kind : String) (codec : Codec σ)
    (m later held result : ObjectMeta) (spec later_spec : Option σ)
    (metadata : Turns (ObjectMeta.codec.encode m) (ObjectMeta.codec.encode later)
      (ObjectMeta.codec.encode held) (ObjectMeta.codec.encode result)) :
    Turns ((codecOf apiVersion kind codec).encode (m, spec))
      ((codecOf apiVersion kind codec).encode (later, later_spec))
      ((codecOf apiVersion kind codec).encode (held, spec))
      ((codecOf apiVersion kind codec).encode (result, later_spec)) := by
  have ascend : Shape.ascending ["apiVersion", "kind", "metadata", "spec"] = true := by decide
  refine Shape.turns_record _ ?_ _ _ _ _ ?_
  · exact ascend
  exact ⟨Member.follows_self _ _ _, Member.follows_self _ _ _, .turned _ _ _ _ metadata,
    Member.follows_self _ _ _, trivial⟩

/-- The difference of two workloads of a namespace says nothing about the namespace. -/
theorem Workload.turns_inNamespace (w later : Workload) (kind : later.kind = w.kind)
    (same : later.metadata.namespaceName = w.metadata.namespaceName) (name : Option String) :
    Turns w.encode later.encode (w.inNamespace name).encode (later.inNamespace name).encode := by
  have metadata := ObjectMeta.turns_inNamespace w.metadata later.metadata same name
  obtain ⟨m, body⟩ := w
  obtain ⟨later_m, later_body⟩ := later
  cases body with
  | pod =>
    cases later_body with
    | pod => exact turns_codecOf _ _ _ _ _ _ _ _ _ metadata
    | deployment | statefulSet | daemonSet => cases kind
  | deployment =>
    cases later_body with
    | deployment => exact turns_codecOf _ _ _ _ _ _ _ _ _ metadata
    | pod | statefulSet | daemonSet => cases kind
  | statefulSet =>
    cases later_body with
    | statefulSet => exact turns_codecOf _ _ _ _ _ _ _ _ _ metadata
    | pod | deployment | daemonSet => cases kind
  | daemonSet =>
    cases later_body with
    | daemonSet => exact turns_codecOf _ _ _ _ _ _ _ _ _ metadata
    | pod | deployment | statefulSet => cases kind

end TracingSidecar
