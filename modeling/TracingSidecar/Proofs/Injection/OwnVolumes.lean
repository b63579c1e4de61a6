import Mathlib.Data.List.Induction
import TracingSidecar.Proofs.Injection.Pods

/-!
# What becomes of the owner's volumes

A volume that a workload had of its own stays in it until an evaluation ends a binding to an
instance whose trust bundles have its name: then it is taken for one of them, on every platform and
whether or not the injection added any (`ownVolume_taken`).  That is the only way in which a volume
is lost (`ownVolumes_kept_iff`).
-/

namespace TracingSidecar

/-- The evaluation of a workload takes a volume away: it ends a binding to an instance whose trust
bundles have the volume's name, and does not bring in that same volume. -/
def Occasion.Takes (o : Occasion) (w : Workload) (v : Volume) : Prop :=
  ∃ marker, o.ends? w = some marker ∧ v.name ∈ Naming.caNames marker ∧ v ∉ o.volumesBrought w

/-- Exactly what an evaluation takes away is lost. -/
theorem Occasion.mem_volumes_apply_iff (o : Occasion) (w : Workload) (v : Volume)
    (differ : NamesDiffer (·.name) w.volumes) (member : v ∈ w.volumes) :
    v ∈ (o.apply w).volumes ↔ ¬ o.Takes w v := by
  have brought := distinctBy_eq_self _ _ (o.namesDiffer_volumesBrought w)
  rw [o.volumes_apply w differ, List.mem_append, mem_withoutCa, mem_newNamed, brought]
  constructor
  · rintro kept ⟨marker, ended, named, not_brought⟩
    rcases kept with ⟨-, apart⟩ | ⟨again, -⟩
    · exact apart marker ended named
    · exact not_brought again
  · intro not_taken
    by_cases released : ∃ marker, o.ends? w = some marker ∧ v.name ∈ Naming.caNames marker
    · -- No other volume of the name is left either, so the one that is brought in is joined.
      obtain ⟨marker, ended, named⟩ := released
      have again : v ∈ o.volumesBrought w := by
        by_contra absent
        exact not_taken ⟨marker, ended, named, absent⟩
      refine Or.inr ⟨again, ?_⟩
      intro other left same
      have apart := ((mem_withoutCa _ _ other).1 left).2 marker ended
      exact apart (same ▸ named)
    · exact Or.inl ⟨member, fun marker ended named => released ⟨marker, ended, named⟩⟩

/-- Volumes with different names have different names after every run. -/
theorem Workload.namesDiffer_volumes_after (w : Workload) (run : List Occasion)
    (differ : NamesDiffer (·.name) w.volumes) : NamesDiffer (·.name) (w.after run).volumes :=
  after_induction (P := fun later => NamesDiffer (·.name) later.volumes) run w differ
    fun o _ later => o.namesDiffer_volumes_apply later

/-- A volume that a workload has is there after every evaluation of a run exactly if none of them
takes it away. -/
theorem ownVolumes_kept_iff (w : Workload) (run : List Occasion) (v : Volume)
    (differ : NamesDiffer (·.name) w.volumes) (own : v ∈ w.volumes) :
    (∀ earlier, earlier <+: run → v ∈ (w.after earlier).volumes) ↔
      ∀ earlier o, earlier ++ [o] <+: run → ¬ o.Takes (w.after earlier) v := by
  have step (earlier : List Occasion) (o : Occasion) (there : v ∈ (w.after earlier).volumes) :
      v ∈ (w.after (earlier ++ [o])).volumes ↔ ¬ o.Takes (w.after earlier) v := by
    rw [Workload.after_append]
    exact o.mem_volumes_apply_iff _ v (w.namesDiffer_volumes_after earlier differ) there
  constructor
  · intro kept earlier o initial
    have there := kept earlier ((List.prefix_append earlier [o]).trans initial)
    exact (step earlier o there).1 (kept (earlier ++ [o]) initial)
  · intro not_taken earlier
    induction earlier using List.reverseRecOn with
    | nil => exact fun _ => own
    | append_singleton earlier o ih =>
      intro initial
      have there := ih ((List.prefix_append earlier [o]).trans initial)
      exact (step earlier o there).2 (not_taken earlier o initial)

/-- A volume that has the name of no trust bundle of an instance, as its label value names it,
outlives every run from an unbound workload. -/
theorem ownVolume_mem_after (w : Workload) (run : List Occasion) (v : Volume)
    (unbound : w.boundTo? = none) (differ : NamesDiffer (·.name) w.volumes) (own : v ∈ w.volumes)
    (apart : ∀ o ∈ run, ∀ i ∈ o.instances, v.name ∉ Naming.caNames i.marker) :
    v ∈ (w.after run).volumes := by
  have kept := Workload.after_induction (P := fun later => v ∈ later.volumes ∧
    NamesDiffer (·.name) later.volumes ∧
    ∀ marker, later.boundTo? = some marker → v.name ∉ Naming.caNames marker) run w
  refine (kept ⟨own, differ, by simp [unbound]⟩ ?_).1
  intro o member later ⟨there, later_differ, marked⟩
  refine ⟨?_, o.namesDiffer_volumes_apply later later_differ, ?_⟩
  · apply (o.mem_volumes_apply_iff later v later_differ there).2
    rintro ⟨marker, ended, named, -⟩
    exact marked marker ((o.ends?_eq_some_iff later marker).1 ended).1 named
  · refine o.cases later (motive := fun _ next =>
      ∀ marker, next.boundTo? = some marker → v.name ∉ Naming.caNames marker) marked ?_ ?_
    · intro i opted selected marker bound
      rw [InjectorConfig.boundTo?_inject, Option.some.injEq] at bound
      rw [← bound]
      exact apart o member i (mem_of_select? later o.ns o.instances i selected)
    · intro previous _ marker bound
      rw [Workload.boundTo?_clean] at bound
      cases bound

/-- A volume whose name is shorter than that of any trust bundle. -/
def Sample.data : Volume := { name := "data", emptyDir := some {} }

/-- The data of the sample are there after each step of its binding and unbinding. -/
theorem ownVolumes_kept_iff_data :
    let w := Sample.deploymentWith [Sample.data]
    let run := [Sample.binding {} (Sample.instanceAt "tracing" "prod"), {}]
    NamesDiffer (·.name) w.volumes ∧ Sample.data ∈ w.volumes ∧
      ∀ earlier, earlier <+: run → Sample.data ∈ (w.after earlier).volumes := by
  have differ : NamesDiffer (·.name) (Sample.deploymentWith [Sample.data]).volumes :=
    List.pairwise_singleton _ _
  have own : Sample.data ∈ (Sample.deploymentWith [Sample.data]).volumes := by decide
  refine ⟨differ, own, ?_⟩
  apply (ownVolumes_kept_iff _ _ _ differ own).2
  rintro earlier o - ⟨marker, -, named, -⟩
  exact Naming.not_mem_caNames_of_length_lt marker "data" (by decide) named

/-- The owner's volume of the name of a trust bundle is taken away with the sidecar, on a platform
where injections add no trust bundles. -/
theorem ownVolume_taken :
    let own := Volume.ofConfigMap "prod-trusted-ca" "ca.crt" "ca.crt"
    let w := Sample.deploymentWith [own]
    let run := [Sample.binding {} (Sample.instanceAt "tracing" "prod"), {}]
    w.hasAgent = false ∧ w.boundTo? = none ∧ NamesDiffer (·.name) w.volumes ∧ own ∈ w.volumes ∧
      own ∉ (w.after run).volumes := by
  refine ⟨by decide, by decide, List.pairwise_singleton _ _, by decide, by decide⟩

end TracingSidecar
