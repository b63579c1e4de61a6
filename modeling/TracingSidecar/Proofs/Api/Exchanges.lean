import TracingSidecar.Api.Client

/-!
# What a client asks for

What a client asks for next depends on what it was answered so far, and on nothing else.  A client
ensures that all its requests are allowed, whatever the answers are, if each one is allowed after
the exchanges before it (`Client.Ensures`).  Nothing is said here about who answers: other clients
may have their requests answered in between.

Run against a handler, a client has certain exchanges (`Client.exchanges`).  What it asks for
whatever the answers are is found among them (`Client.AsksOnly`), and so is the reason why it fails,
if it is one that gives up at the first failed request (`Client.GivesUp`).
-/

namespace TracingSidecar

/-- A request and its answer. -/
structure Exchange where
  request : Request
  answer : Except ApiError request.Answer

/-- The error in an answer. -/
def errorOf? {α : Type} : Except ApiError α → Option ApiError
  | .error error => some error
  | .ok _ => none

/-- Why the request of an exchange failed, if it did. -/
def Exchange.error? (e : Exchange) : Option ApiError := errorOf? e.answer

namespace Client

variable {α β : Type} (allowed : List Exchange → Request → Prop)

/-- Every request of a client that has seen some exchanges is allowed, and what it comes to in the
end is as it should be after all exchanges. -/
def Ensures (result : List Exchange → α → Prop) : Client α → List Exchange → Prop
  | .done value, seen => result seen value
  | .ask request next, seen =>
      allowed seen request ∧ ∀ answer, (next answer).Ensures result (seen ++ [⟨request, answer⟩])

variable {allowed} {result : List Exchange → α → Prop} {seen : List Exchange}

theorem ensures_pure (value : α) (holds : result seen value) :
    (pure value : Client α).Ensures allowed result seen := holds

theorem ensures_send {request : Request}
    {result : List Exchange → Except ApiError request.Answer → Prop}
    (asks : allowed seen request)
    (holds : ∀ answer, result (seen ++ [⟨request, answer⟩]) answer) :
    (send request).Ensures allowed result seen :=
  ⟨asks, holds⟩

/-- A request that is not sent leaves the exchanges as they are. -/
theorem ensures_sendNamed {name : String} {request : Request}
    {result : List Exchange → Except ApiError request.Answer → Prop}
    (asks : allowed seen request) (unsent : result seen (.error .missingName))
    (holds : ∀ answer, result (seen ++ [⟨request, answer⟩]) answer) :
    (sendNamed name request).Ensures allowed result seen := by
  unfold sendNamed
  split
  · exact unsent
  · exact ensures_send asks holds

/-- One client goes on where another one ended. -/
theorem ensures_andThen {c : Client α} {f : α → Client β} (between : List Exchange → α → Prop)
    {result : List Exchange → β → Prop} (first : c.Ensures allowed between seen)
    (second : ∀ later value, between later value → (f value).Ensures allowed result later) :
    (c >>= f).Ensures allowed result seen := by
  induction c generalizing seen with
  | done value => exact second seen value first
  | ask request next ih => exact ⟨first.1, fun answer => ih answer (first.2 answer)⟩

theorem Ensures.mono {c : Client α} {result expected : List Exchange → α → Prop}
    (ensures : c.Ensures allowed result seen)
    (implies : ∀ later value, result later value → expected later value) :
    c.Ensures allowed expected seen := by
  induction c generalizing seen with
  | done value => exact implies seen value ensures
  | ask request next ih => exact ⟨ensures.1, fun answer => ih answer (ensures.2 answer)⟩

/-! ### Runs -/

variable {σ : Type} (handle : Handler σ) (state : σ)

/-- What a client exchanges with what it is run against, in order. -/
def exchanges (handle : Handler σ) : Client α → σ → List Exchange
  | .done _, _ => []
  | .ask request next, state =>
      let (answer, state) := handle request state
      ⟨request, answer⟩ :: (next answer).exchanges handle state

@[simp] theorem exchanges_pure (value : α) :
    (pure value : Client α).exchanges handle state = [] := rfl

@[simp] theorem exchanges_send (request : Request) :
    (send request).exchanges handle state = [⟨request, (handle request state).1⟩] := rfl

/-- With a name, a request about a named object is exchanged like any other. -/
theorem exchanges_sendNamed (name : String) (request : Request) (named : name ≠ "") :
    (sendNamed name request).exchanges handle state = [⟨request, (handle request state).1⟩] := by
  rw [sendNamed, if_neg named, exchanges_send]

@[simp] theorem exchanges_andThen (c : Client α) (f : α → Client β) :
    (c >>= f).exchanges handle state =
      c.exchanges handle state ++
        (f (c.run handle state).1).exchanges handle (c.run handle state).2 := by
  induction c generalizing state with
  | done value => rfl
  | ask request next ih =>
    exact congrArg (⟨request, (handle request state).1⟩ :: ·)
      (ih (handle request state).1 (handle request state).2)

/-- What each request of a client keeps is kept by the client. -/
theorem run_keeps (c : Client α) (holds : σ → Prop) (start : holds state)
    (step : ∀ e ∈ c.exchanges handle state, ∀ state, holds state →
      holds (handle e.request state).2) :
    holds (c.run handle state).2 := by
  induction c generalizing state with
  | done value => exact start
  | ask request next ih =>
    have first := step ⟨request, (handle request state).1⟩ List.mem_cons_self state start
    exact ih _ _ first fun e later => step e (List.mem_cons_of_mem _ later)

/-! ### Requests of one sort -/

/-- Every request of a client is of one sort, whatever it is answered. -/
def AsksOnly (sort : Request → Prop) : Client α → Prop
  | .done _ => True
  | .ask request next => sort request ∧ ∀ answer, (next answer).AsksOnly sort

variable {sort : Request → Prop}

theorem asksOnly_pure (value : α) : (pure value : Client α).AsksOnly sort := trivial

theorem asksOnly_send {request : Request} (asks : sort request) : (send request).AsksOnly sort :=
  ⟨asks, fun _ => trivial⟩

theorem asksOnly_sendNamed (name : String) {request : Request} (asks : sort request) :
    (sendNamed name request).AsksOnly sort := by
  unfold sendNamed
  split
  · trivial
  · exact asksOnly_send asks

theorem asksOnly_andThen {c : Client α} {f : α → Client β} (first : c.AsksOnly sort)
    (second : ∀ value, (f value).AsksOnly sort) : (c >>= f).AsksOnly sort := by
  induction c with
  | done value => exact second value
  | ask request next ih => exact ⟨first.1, fun answer => ih answer (first.2 answer)⟩

theorem AsksOnly.mono {c : Client α} {wider : Request → Prop} (asks : c.AsksOnly sort)
    (implies : ∀ request, sort request → wider request) : c.AsksOnly wider := by
  induction c with
  | done value => trivial
  | ask request next ih => exact ⟨implies request asks.1, fun answer => ih answer (asks.2 answer)⟩

theorem AsksOnly.of_mem_exchanges {c : Client α} (asks : c.AsksOnly sort) (e : Exchange)
    (member : e ∈ c.exchanges handle state) : sort e.request := by
  induction c generalizing state with
  | done value => cases member
  | ask request next ih =>
    rcases List.mem_cons.1 member with rfl | later
    · exact asks.1
    · exact ih _ _ (asks.2 _) later

/-- Two handlers that treat the requests of a client alike are the same to it. -/
theorem AsksOnly.run_congr {c : Client α} (asks : c.AsksOnly sort) (other : Handler σ)
    (alike : ∀ request state, sort request → handle request state = other request state) :
    c.run handle state = c.run other state ∧
      c.exchanges handle state = c.exchanges other state := by
  induction c generalizing state with
  | done value => exact ⟨rfl, rfl⟩
  | ask request next ih =>
    obtain ⟨same_run, same_exchanges⟩ :=
      ih (other request state).1 (other request state).2 (asks.2 _)
    simp [run, exchanges, alike request state asks.1, same_run, same_exchanges]

/-! ### Giving up -/

/-- A client gives up at the first request that fails, with the error of that request, and does not
fail otherwise. -/
def GivesUp (c : Client (Except ApiError α)) : Prop :=
  ∀ (σ : Type) (handle : Handler σ) (state : σ),
    (c.exchanges handle state).filterMap (·.error?) = (errorOf? (c.run handle state).1).toList

theorem givesUp_pure (value : α) : (pure (.ok value) : Client (Except ApiError α)).GivesUp :=
  fun _ _ _ => rfl

theorem givesUp_send (request : Request) : (send request).GivesUp := by
  intro σ handle state
  simp only [exchanges_send, run_send, Exchange.error?, List.filterMap_cons, List.filterMap_nil]
  cases errorOf? (handle request state).1 <;> rfl

theorem givesUp_andThen {c : Client (Except ApiError α)}
    {next : Except ApiError α → Client (Except ApiError β)} (first : c.GivesUp)
    (stops : ∀ error, next (.error error) = pure (.error error))
    (second : ∀ value, (next (.ok value)).GivesUp) : (c >>= next).GivesUp := by
  intro σ handle state
  have failed := first σ handle state
  rw [exchanges_andThen, run_andThen, List.filterMap_append, failed]
  cases (c.run handle state).1 with
  | error error => rw [stops error]; rfl
  | ok value => exact second value σ handle _

theorem GivesUp.eq_error {c : Client (Except ApiError α)} (gives_up : c.GivesUp) (e : Exchange)
    (member : e ∈ c.exchanges handle state) (error : ApiError) (failed : e.error? = some error) :
    (c.run handle state).1 = .error error := by
  have listed : error ∈ (c.exchanges handle state).filterMap (·.error?) :=
    List.mem_filterMap.2 ⟨e, member, failed⟩
  rw [gives_up σ handle state] at listed
  cases result : (c.run handle state).1 with
  | error other =>
    rw [result] at listed
    rw [List.mem_singleton.1 listed]
  | ok value =>
    rw [result] at listed
    cases listed

theorem GivesUp.eq_ok {c : Client (Except ApiError α)} (gives_up : c.GivesUp)
    (none_failed : ∀ e ∈ c.exchanges handle state, e.error? = none) :
    ∃ value, (c.run handle state).1 = .ok value := by
  have failed := gives_up σ handle state
  rw [List.filterMap_eq_nil_iff.2 none_failed] at failed
  cases result : (c.run handle state).1 with
  | error error =>
    rw [result] at failed
    cases failed
  | ok value => exact ⟨value, rfl⟩

end Client

end TracingSidecar
