import Mathlib.Algebra.Group.Nat.Defs
import TracingSidecar.Proofs.Discovery.Polling

/-!
# Waiting until the definition is served

Polls follow each other after pauses of 10, 20, 40 and from then on 60 seconds (`pause_eq`), and the
wait ends with the first poll that finds the definition (`endsAtFirst_wait`).  That is the first one
that sees it served exactly if the version of the definition is recommended there
(`waits_until_served_iff`); a cluster that recommends another version is waited for in vain
(`wait_misses_definition`).
-/

namespace TracingSidecar.Discovery

/-! ### The polls and the pauses between them -/

/-- The second of a poll: the sum of the pauses before it. -/
def secondOf : Nat → Nat
  | 0 => 0
  | n + 1 => secondOf n + min (10 * 2 ^ n) 60

/-- The requests of the first polls. -/
def requestsOf (polls : Nat → Poll) (n : Nat) : List String :=
  (List.range n).flatMap fun i => (polls i).requests

/-- How a wait ends that polls at its seconds until a poll passes a test: with that poll, or in front
of it if the time is up. -/
inductive EndsAtFirst (passes : Poll → Prop) (polls : Nat → Poll) (limit : Nat) : Outcome → Prop where
  | available (i : Nat) (passed : passes (polls i)) (earlier : ∀ j < i, ¬ passes (polls j))
      (in_time : secondOf i < limit) :
      EndsAtFirst passes polls limit (.available (secondOf i) (requestsOf polls (i + 1)))
  | timedOut (n : Nat) (earlier : ∀ j < n, ¬ passes (polls j))
      (in_time : ∀ j < n, secondOf j < limit) (late : limit ≤ secondOf n) :
      EndsAtFirst passes polls limit (.timedOut (requestsOf polls n))

theorem pause_eq (i : Nat) : pause i = min (10 * 2 ^ i) 60 := by
  induction i with
  | zero => rfl
  | succ i ih =>
    rw [pause, ih, Nat.pow_succ]
    omega

theorem secondOf_succ (n : Nat) : secondOf (n + 1) = secondOf n + pause n := by
  rw [secondOf, pause_eq]

theorem secondOf_lt (i j : Nat) (before : i < j) : secondOf i < secondOf j := by
  induction j with
  | zero => omega
  | succ j ih =>
    have positive := pause_pos j
    rw [secondOf_succ]
    rcases Nat.lt_succ_iff_lt_or_eq.1 before with earlier | rfl
    · have := ih earlier
      omega
    · omega

theorem secondOf_inj (i j : Nat) (same : secondOf i = secondOf j) : i = j := by
  rcases Nat.lt_trichotomy i j with before | equal | behind
  · have := secondOf_lt i j before
    omega
  · exact equal
  · have := secondOf_lt j i behind
    omega

theorem requestsOf_succ (polls : Nat → Poll) (n : Nat) :
    requestsOf polls (n + 1) = requestsOf polls n ++ (polls n).requests := by
  simp [requestsOf, List.range_succ]

theorem after_after (earlier more : List String) (outcome : Outcome) :
    (outcome.after more).after earlier = outcome.after (earlier ++ more) := by
  cases outcome <;> simp [Outcome.after]

/-- From any poll on that is reached without success, the wait goes on until the first poll that
finds the definition. -/
theorem endsAtFirst_waitFrom (polls : Nat → Poll) (limit i : Nat)
    (earlier : ∀ j < i, ¬ (polls j).finds = true) (in_time : ∀ j < i, secondOf j < limit) :
    EndsAtFirst (·.finds = true) polls limit
      ((waitFrom polls limit i (secondOf i)).after (requestsOf polls i)) := by
  unfold waitFrom
  split
  next reached =>
    by_cases found : (polls i).finds = true
    · have here : EndsAtFirst (·.finds = true) polls limit _ := .available i found earlier reached
      rw [requestsOf_succ] at here
      simpa [found, Outcome.after] using here
    · have further := endsAtFirst_waitFrom polls limit (i + 1)
        (Nat.forall_lt_succ_right.2 ⟨earlier, found⟩) (Nat.forall_lt_succ_right.2 ⟨in_time, reached⟩)
      rw [secondOf_succ, requestsOf_succ, ← after_after] at further
      simpa [found] using further
  next late =>
    simpa [Outcome.after] using EndsAtFirst.timedOut i earlier in_time (by omega)
termination_by limit - secondOf i
decreasing_by
  have := secondOf_lt i (i + 1) (Nat.lt_succ_self i)
  omega

theorem endsAtFirst_wait (polls : Nat → Poll) (limit : Nat) :
    EndsAtFirst (·.finds = true) polls limit (wait polls limit) := by
  have started := endsAtFirst_waitFrom polls limit 0 (by simp) (by simp)
  have nothing_before (outcome : Outcome) : outcome.after [] = outcome := by cases outcome <;> rfl
  rwa [requestsOf, List.range_zero, List.flatMap_nil, nothing_before] at started

section

variable {passes needs : Poll → Prop} {polls : Nat → Poll} {limit : Nat} {outcome : Outcome}

/-- A wait with time enough for the first poll that passes ends with it. -/
theorem EndsAtFirst.eq_available (ends : EndsAtFirst passes polls limit outcome) (i : Nat)
    (passed : passes (polls i)) (earlier : ∀ j < i, ¬ passes (polls j))
    (in_time : secondOf i < limit) :
    outcome = .available (secondOf i) (requestsOf polls (i + 1)) := by
  cases ends with
  | available k passed_k earlier_k _ =>
    rcases Nat.lt_trichotomy i k with before | rfl | behind
    · exact absurd passed (earlier_k i before)
    · rfl
    · exact absurd passed_k (earlier k behind)
  | timedOut n earlier_n _ late =>
    rcases Nat.lt_trichotomy i n with before | rfl | behind
    · exact absurd passed (earlier_n i before)
    · omega
    · have := secondOf_lt n i behind
      omega

theorem EndsAtFirst.passed_of_available {second : Nat} {requests : List String}
    (ends : EndsAtFirst passes polls limit (.available second requests)) (i : Nat)
    (at_poll : second = secondOf i) : passes (polls i) := by
  cases ends with
  | available k passed _ _ =>
    rw [← secondOf_inj k i at_poll]
    exact passed

/-- A wait for polls that pass is one for polls that have what is needed, if those that pass have it
and the first that has it passes. -/
theorem EndsAtFirst.of_agree (ends : EndsAtFirst passes polls limit outcome)
    (sound : ∀ i, passes (polls i) → needs (polls i))
    (first_passes : ∀ i, needs (polls i) → (∀ j < i, ¬ needs (polls j)) → passes (polls i)) :
    EndsAtFirst needs polls limit outcome := by
  have none_needed (n : Nat) (none_passed : ∀ j < n, ¬ passes (polls j)) :
      ∀ j < n, ¬ needs (polls j) := by
    intro j
    induction j using Nat.strongRecOn with
    | _ j ih =>
      intro before needed
      have first : ∀ k < j, ¬ needs (polls k) := fun k earlier => ih k earlier (by omega)
      exact none_passed j before (first_passes j needed first)
  cases ends with
  | available i passed earlier in_time =>
    exact .available i (sound i passed) (none_needed i earlier) in_time
  | timedOut n earlier in_time late => exact .timedOut n (none_needed n earlier) in_time late

end

/-- Whatever the polls answer, the wait has no other end than the first poll that sees the
definition served in a version that is recommended.  So it ends with the first poll that sees it
served exactly if that poll sees it recommended. -/
theorem waits_until_served_iff (polls : Nat → Poll) :
    (∀ limit, EndsAtFirst (fun poll => poll.Serves ∧ poll.Recommends) polls limit
        (wait polls limit)) ∧
      ((∀ limit, EndsAtFirst Poll.Serves polls limit (wait polls limit)) ↔
        ∀ i, (polls i).Serves → (∀ j < i, ¬ (polls j).Serves) → (polls i).Recommends) := by
  have ends : ∀ limit, EndsAtFirst (fun poll => poll.Serves ∧ poll.Recommends) polls limit
      (wait polls limit) := by
    intro limit
    simp only [← Poll.finds_iff]
    exact endsAtFirst_wait polls limit
  refine ⟨ends, ?_, ?_⟩
  · intro ends_when_served i serves earlier
    have in_time : secondOf i < secondOf i + 1 := Nat.lt_succ_self _
    have outcome := (ends_when_served _).eq_available i serves earlier in_time
    have ended := ends (secondOf i + 1)
    rw [outcome] at ended
    exact (ended.passed_of_available i rfl).2
  · intro recommended limit
    refine (ends limit).of_agree (fun i passed => passed.1) ?_
    intro i serves earlier
    exact ⟨serves, recommended i serves earlier⟩

/-- A group that also serves a second version and prefers it hides the definition for good. -/
theorem wait_misses_definition :
    let polls : Nat → Poll := fun _ => .groups
      [{ name := "jaegertracing.io", versions := [⟨"v1", ["Jaeger"]⟩, ⟨"v2", ["Jaeger"]⟩],
         preferred := some "v2" }]
    (polls 0).Serves ∧ ¬ EndsAtFirst Poll.Serves polls 1 (wait polls 1) ∧
      ∀ limit, ∃ requests, wait polls limit = .timedOut requests := by
  intro polls
  have serves : (polls 0).Serves := ⟨⟨"v1", ["Jaeger"]⟩, by decide, by decide⟩
  have missed : ∀ i, ¬ (polls i).finds = true := fun i => by decide +kernel
  have never : ∀ limit, ∃ requests, wait polls limit = .timedOut requests := by
    intro limit
    have ends := endsAtFirst_wait polls limit
    cases outcome : wait polls limit with
    | timedOut requests => exact ⟨requests, rfl⟩
    | available second requests =>
      rw [outcome] at ends
      cases ends with
      | available i found _ _ => exact absurd found (missed i)
  refine ⟨serves, ?_, never⟩
  intro ends
  obtain ⟨requests, timed_out⟩ := never 1
  have available := ends.eq_available 0 serves (by simp) (by decide)
  cases available.symm.trans timed_out

end TracingSidecar.Discovery
