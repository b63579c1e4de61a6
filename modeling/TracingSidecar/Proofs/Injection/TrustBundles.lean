import TracingSidecar.Proofs.Injection.Pods

/-!
# What becomes of the trust bundles

The trust bundle volumes of an instance are added under its name and are found again by the marker
of the workload, which is that name cut to the length of a label value.  Where the two are the same,
the volumes are there only as long as the workload is bound to the instance
(`heldWhileBound_apply`); where they differ, the volumes stay for good (`hasVolume_apply`).  So they
leave with the binding exactly if the instance's name is its own label value
(`caVolumes_leave_iff`).  An instance with the same label value as another takes its place without
ending the binding (`hasVolume_apply_of_boundTo?`).
-/

namespace TracingSidecar

namespace Workload

/-- There is a volume of a name. -/
def HasVolume (name : String) (w : Workload) : Prop := ∃ v ∈ w.volumes, v.name = name

/-- The marker, if there is one, was cut to fit. -/
def MarkerFits (w : Workload) : Prop :=
  ∀ marker, w.boundTo? = some marker → Naming.labelValue marker = marker

/-- Trust bundle volumes of an instance are there only while the workload is bound to it. -/
def HeldWhileBound (i : TracingInstance) (w : Workload) : Prop :=
  ∀ v ∈ w.volumes, v.name ∈ Naming.caNames i.anyName → w.boundTo? = some i.marker

end Workload

/-- Every instance of another name leaves the names of an instance's trust bundles alone. -/
def Occasion.LeavesCaNames (i : TracingInstance) (o : Occasion) : Prop :=
  ∀ other ∈ o.instances, other.anyName ≠ i.anyName →
    ∀ v ∈ other.spec.agent.settings.volumes, v.name ∉ Naming.caNames i.anyName

namespace Occasion

variable (o : Occasion) (w : Workload)

theorem markerFits_apply (fits : w.MarkerFits) : (o.apply w).MarkerFits := by
  refine o.cases w (motive := fun _ later => later.MarkerFits) fits ?_ ?_
  · intro i opted selected marker bound
    rw [InjectorConfig.boundTo?_inject, Option.some.injEq] at bound
    rw [← bound]
    exact Naming.labelValue_labelValue i.anyName
  · intro previous unbound marker bound
    rw [Workload.boundTo?_clean] at bound
    cases bound

/-- No volume is lost but the trust bundles of the binding that ends. -/
theorem hasVolume_apply (name : String) (there : w.HasVolume name)
    (apart : ∀ marker, o.ends? w = some marker → name ∉ Naming.caNames marker) :
    (o.apply w).HasVolume name := by
  obtain ⟨v, member, named⟩ := there
  have left : v ∈ withoutCa (o.ends? w) w.volumes := by
    rw [mem_withoutCa, named]
    exact ⟨member, apart⟩
  obtain ⟨other, found, same⟩ := o.namesCovered_volumes_apply w v (List.mem_append_left _ left)
  exact ⟨other, found, same.trans named⟩

/-- No volume is lost where the marker stays, as it does when an instance takes the place of another
that has the same label value. -/
theorem hasVolume_apply_of_boundTo? (name : String) (there : w.HasVolume name)
    (same : (o.apply w).boundTo? = w.boundTo?) : (o.apply w).HasVolume name := by
  apply o.hasVolume_apply w name there
  intro marker ended
  obtain ⟨marked, unmarked⟩ := (o.ends?_eq_some_iff w marker).1 ended
  exact absurd (same.trans marked) unmarked

/-- What an instance brings in has the name of another instance's trust bundle only if its own
settings say so. -/
theorem marker_of_mem_volumesBrought (i : TracingInstance) (v : Volume)
    (leaves : o.LeavesCaNames i) (brought : v ∈ o.volumesBrought w)
    (named : v.name ∈ Naming.caNames i.anyName) : (o.apply w).boundTo? = some i.marker := by
  unfold volumesBrought at brought
  cases binds : o.binds? w with
  | none =>
    rw [binds] at brought
    cases brought
  | some other =>
    rw [binds, Option.map_some, Option.getD_some] at brought
    obtain ⟨-, selected, injected⟩ := o.binds?_eq_some w other binds
    have same : other.anyName = i.anyName := by
      by_contra different
      have declared := mem_of_mem_distinctBy _ _ _ brought
      rcases List.mem_append.1 declared with own | trust
      · exact leaves other (mem_of_select? w _ _ other selected) different v own named
      · split at trust
        · have of_other := name_mem_caNames other v trust
          exact different (Naming.eq_of_mem_caNames _ _ _ of_other named)
        · cases trust
    rw [injected, InjectorConfig.boundTo?_inject, TracingInstance.marker, same]
    rfl

/-- Under an instance's own name, its trust bundles leave with the binding. -/
theorem heldWhileBound_apply (i : TracingInstance) (exact_marker : i.marker = i.anyName)
    (leaves : o.LeavesCaNames i) (held : w.HeldWhileBound i) : (o.apply w).HeldWhileBound i := by
  intro v member named
  rcases o.mem_of_mem_volumes_apply w v member with left | brought
  · obtain ⟨there, apart⟩ := (mem_withoutCa _ _ v).1 left
    have bound := held v there named
    by_contra unbound
    have ended := (o.ends?_eq_some_iff w i.marker).2 ⟨bound, unbound⟩
    have apart_marker := apart i.marker ended
    rw [exact_marker] at apart_marker
    exact apart_marker named
  · exact o.marker_of_mem_volumesBrought w i v leaves brought named

/-- Where trust bundles are added, those of the instance that is bound are there. -/
theorem hasVolume_trustedCa (i : TracingInstance) (openShift : o.config.platform = .openShift)
    (binds : o.binds? w = some i) : (o.apply w).HasVolume i.trustedCaName := by
  have adds : o.config.addsCaVolumes = true := by
    simp [InjectorConfig.addsCaVolumes, openShift]
  have bundle : Volume.ofConfigMap i.trustedCaName "ca-bundle.crt" "tls-ca-bundle.pem" ∈
      i.spec.agent.settings.volumes ++ caVolumes i :=
    List.mem_append_right _ List.mem_cons_self
  have brought : o.volumesBrought w =
      distinctBy (·.name) (i.spec.agent.settings.volumes ++ caVolumes i) := by
    simp [volumesBrought, binds, InjectorConfig.sidecarVolumes, distinctVolumes, adds]
  obtain ⟨v, kept, same⟩ := namesCovered_distinctBy (·.name) _ _ bundle
  rw [← brought] at kept
  obtain ⟨other, found, again⟩ := o.namesCovered_volumes_apply w v (List.mem_append_right _ kept)
  exact ⟨other, found, again.trans same⟩

end Occasion

/-- Once the binding to an instance ended, its trust bundle volumes are gone exactly if its name is
its own label value.  An instance whose name is cut leaves them in the workload for good. -/
theorem caVolumes_leave_iff (i : TracingInstance) (w : Workload) (first : Occasion)
    (run : List Occasion) (openShift : first.config.platform = .openShift)
    (binds : first.binds? w = some i) (leaves : ∀ o ∈ run, o.LeavesCaNames i)
    (ended : (w.after (first :: run)).boundTo? ≠ some i.marker) :
    (∀ v ∈ (w.after (first :: run)).volumes, v.name ∉ Naming.caNames i.anyName) ↔
      i.marker = i.anyName := by
  obtain ⟨-, -, injected⟩ := first.binds?_eq_some w i binds
  have bound : (first.apply w).boundTo? = some i.marker := by
    rw [injected, InjectorConfig.boundTo?_inject]
  rw [Workload.after_cons] at ended ⊢
  constructor
  · intro gone
    by_contra cut
    -- No marker is ever the name of the instance, so no evaluation finds its trust bundles.
    have fits : (first.apply w).MarkerFits := by
      intro marker found
      rw [bound, Option.some.injEq] at found
      rw [← found]
      exact Naming.labelValue_labelValue i.anyName
    have stays := Workload.after_induction
      (P := fun later => later.MarkerFits ∧ later.HasVolume i.trustedCaName) run (first.apply w)
      ⟨fits, first.hasVolume_trustedCa w i openShift binds⟩
    have last := stays fun o _ later ⟨later_fits, there⟩ => by
      refine ⟨o.markerFits_apply later later_fits, o.hasVolume_apply later _ there ?_⟩
      intro marker marker_ended named
      have marked := ((o.ends?_eq_some_iff later marker).1 marker_ended).1
      have same := Naming.eq_of_mem_caNames marker i.anyName _ named (List.mem_pair.2 (Or.inl rfl))
      have fitting := later_fits marker marked
      rw [same] at fitting
      exact cut fitting
    obtain ⟨-, v, member, named⟩ := last
    exact gone v member (List.mem_pair.2 (Or.inl named))
  · intro exact_marker v member named
    have held : (first.apply w).HeldWhileBound i := fun _ _ _ => bound
    have last := Workload.after_induction (P := fun later => later.HeldWhileBound i) run _ held
      fun o belongs later => o.heldWhileBound_apply later i exact_marker (leaves o belongs)
    exact ended (last v member named)

/-- The trust bundles of `prod` leave when the namespace asks for nothing any more. -/
theorem caVolumes_leave_iff_prod :
    let i := Sample.instanceAt "tracing" "prod"
    let first := Sample.binding { platform := .openShift } i
    let w := Sample.deploymentWith []
    first.config.platform = .openShift ∧ first.binds? w = some i ∧
      (∀ o ∈ [({} : Occasion)], o.LeavesCaNames i) ∧
      (w.after [first, {}]).boundTo? ≠ some i.marker ∧
      ∀ v ∈ (w.after [first, {}]).volumes, v.name ∉ Naming.caNames i.anyName := by
  intro i first w
  have binds : first.binds? w = some i := by decide
  have ended : (w.after [first, {}]).boundTo? ≠ some i.marker := by decide
  have leaves : ∀ o ∈ [({} : Occasion)], o.LeavesCaNames i := by
    intro o member other there
    cases List.mem_singleton.1 member
    cases there
  have gone := caVolumes_leave_iff i w first [{}] rfl binds leaves ended
  exact ⟨rfl, binds, leaves, ended, gone.2 (by decide)⟩

/-- A name of 64 characters, one more than fit into a label value. -/
def Sample.longName : String := "tracing." ++ String.ofList (List.replicate 56 'a')

/-- The trust bundles of an instance with a long name outlive its binding. -/
theorem caVolumes_outlive_binding :
    let i := Sample.instanceAt "tracing" Sample.longName
    let first := Sample.binding { platform := .openShift } i
    let w := Sample.deploymentWith []
    w.hasAgent = false ∧ w.boundTo? = none ∧ w.volumes = [] ∧
      first.evaluation w = .injected Sample.longName ∧
      ({} : Occasion).evaluation (first.apply w) = .cleaned i.marker ∧
      (w.after [first, {}]).volumes.map (·.name) = Naming.caNames Sample.longName := by
  refine ⟨by decide, by decide, by decide, by decide, by decide, by decide⟩

end TracingSidecar
