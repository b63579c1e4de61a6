import TracingSidecar.Proofs.Injection.Selection

/-!
# Asking for a sidecar and being served

Whether a workload asks for a sidecar is decided in two places.  The opt-in takes the value of the
workload or else that of its namespace; the selection of an instance looks at both values, and at
explicit names before `true`.  The two come to the same: a workload asks for a sidecar exactly if it
does not decline, and it or its namespace names an instance or says `true` (`isOptedIn_eq`).  So who
does not ask gets no instance, and who asks gets one from some candidates
(`isOptedIn_iff_exists_select?`).
-/

namespace TracingSidecar

/-! ### What a value says -/

/-- No value says both. -/
theorem saysFalse_of_saysTrue (value : String) (accepts : saysTrue value = true) :
    saysFalse value = false := by
  have lower_true : Text.lower value = Text.lower "true" := beq_iff_eq.1 accepts
  rw [saysFalse, Text.sameIgnoringCase, lower_true]
  decide

/-- A value asks for a sidecar if it names an instance or says `true`. -/
theorem requestsInjection_some (value : String) :
    requestsInjection (some value) = (namesInstance value || saysTrue value) := by
  unfold requestsInjection namesInstance
  cases accepts : saysTrue value with
  | false => simp
  | true =>
    have nonempty : value ≠ "" := by
      rintro rfl
      exact absurd accepts (by decide)
    simp [nonempty, saysFalse_of_saysTrue value accepts]

/-- A value that is there and does not decline asks for a sidecar. -/
theorem requestsInjection_of_nonempty (value : String) (nonempty : value ≠ "")
    (accepts : saysFalse value = false) : requestsInjection (some value) = true := by
  simp [requestsInjection, nonempty, accepts]

/-- Empty values are passed over. -/
theorem ne_empty_of_firstValue? (find : String → Option String) (keys : List String)
    (value : String) (found : firstValue? find keys = some value) : value ≠ "" := by
  obtain ⟨key, -, kept⟩ := List.exists_of_findSome?_eq_some found
  simpa using (Option.filter_eq_some_iff.1 kept).2

theorem ne_empty_of_optInValue? (keys : List String) (m : ObjectMeta) (value : String)
    (found : optInValue? keys m = some value) : value ≠ "" := by
  rcases Option.or_eq_some_iff.1 found with annotated | ⟨-, labelled⟩
  · exact ne_empty_of_firstValue? _ _ value annotated
  · exact ne_empty_of_firstValue? _ _ value labelled

/-! ### The two decisions -/

section

variable (w : Workload) (ns : Namespace)

/-- The opt-in in terms of the values that the selection looks at. -/
theorem isOptedIn_eq :
    let own := w.optIn?.getD ""
    let inherited := ns.optIn?.getD ""
    w.isOptedIn ns = (!saysFalse own &&
      (namesInstance own || namesInstance inherited || (saysTrue own || saysTrue inherited))) := by
  intro own inherited
  have inherited_asks :
      requestsInjection ns.optIn? = (namesInstance inherited || saysTrue inherited) := by
    unfold inherited
    cases ns.optIn? with
    | none => decide
    | some value => exact requestsInjection_some value
  unfold Workload.isOptedIn
  cases asks : w.optIn? with
  | none =>
    have silent : own = "" := by rw [show own = w.optIn?.getD "" from rfl, asks, Option.getD_none]
    have says_nothing : saysFalse "" = false ∧ namesInstance "" = false ∧ saysTrue "" = false := by
      decide
    simp [silent, says_nothing, inherited_asks]
  | some value =>
    have given : own = value := by rw [show own = w.optIn?.getD "" from rfl, asks, Option.getD_some]
    have nonempty := ne_empty_of_optInValue? _ _ value asks
    rw [given, Option.some_or]
    cases declines : saysFalse value with
    | true => simp [requestsInjection, declines]
    | false =>
      -- A value that does not decline asks, so what the namespace says adds nothing.
      have own_asks := requestsInjection_of_nonempty value nonempty declines
      have either := own_asks
      rw [requestsInjection_some, Bool.or_eq_true_iff] at either
      rw [own_asks]
      rcases either with named | accepted
      · simp [named]
      · simp [accepted]

/-- A workload that asks for a sidecar without a name gets the candidate that there is no doubt
about. -/
theorem select?_of_unnamed (candidates : List TracingInstance)
    (opted : w.isOptedIn ns = true) (unnamed : explicitName? w ns = none) :
    select? w ns candidates = unambiguous? (targetNamespace w ns) candidates := by
  simp only [explicitName?] at unnamed
  rw [isOptedIn_eq, Bool.and_eq_true_iff] at opted
  obtain ⟨accepts, asks⟩ := opted
  have accepted : ¬saysFalse (w.optIn?.getD "") = true := by simpa using accepts
  rw [if_neg accepted] at unnamed
  split at unnamed
  next => cases unnamed
  split at unnamed
  next => cases unnamed
  next no_own no_inherited =>
    have says_true : (saysTrue (w.optIn?.getD "") || saysTrue (ns.optIn?.getD "")) = true := by
      simpa [no_own, no_inherited] using asks
    simp only [select?, if_neg accepted, if_neg no_own, if_neg no_inherited, if_pos says_true]

/-- A workload that does not ask for a sidecar gets no instance. -/
theorem select?_of_not_optedIn (candidates : List TracingInstance)
    (declined : w.isOptedIn ns = false) : select? w ns candidates = none := by
  rw [isOptedIn_eq, Bool.and_eq_false_iff] at declined
  rcases declined with declines | asks
  · have declines : saysFalse (w.optIn?.getD "") = true := by simpa using declines
    simp only [select?, if_pos declines]
  · simp only [Bool.or_eq_false_iff] at asks
    obtain ⟨⟨no_own, no_inherited⟩, not_own, not_inherited⟩ := asks
    simp [select?, no_own, no_inherited, not_own, not_inherited]

/-- A workload that asks for a sidecar can be served by a single candidate. -/
theorem exists_select?_singleton (opted : w.isOptedIn ns = true) :
    ∃ i, select? w ns [i] = some i := by
  cases named : explicitName? w ns with
  | none => exact ⟨{}, select?_of_unnamed w ns [{}] opted named⟩
  | some name =>
    let namesake : TracingInstance := { metadata := { name := some name } }
    refine ⟨namesake, ?_⟩
    rw [select?_of_named w ns [namesake] name named]
    exact List.find?_cons_of_pos (by simp [namesake, TracingInstance.anyName, ObjectMeta.anyName])

/-- A workload asks for a sidecar exactly if there are candidates from which an instance is selected
for it; where it does not ask, none is selected from any candidates. -/
theorem isOptedIn_iff_exists_select? :
    (w.isOptedIn ns = true ↔ ∃ candidates i, select? w ns candidates = some i) ∧
      (w.isOptedIn ns = false → ∀ candidates, select? w ns candidates = none) := by
  refine ⟨⟨?_, ?_⟩, fun declined candidates => select?_of_not_optedIn w ns candidates declined⟩
  · intro opted
    obtain ⟨i, selected⟩ := exists_select?_singleton w ns opted
    exact ⟨[i], i, selected⟩
  · rintro ⟨candidates, i, selected⟩
    cases opted : w.isOptedIn ns with
    | true => rfl
    | false =>
      rw [select?_of_not_optedIn w ns candidates opted] at selected
      cases selected

end

end TracingSidecar
