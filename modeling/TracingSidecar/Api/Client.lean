import TracingSidecar.Api.Request

/-!
# Clients

A client is a program that asks the cluster for things and goes on with the answers.  What an answer
is depends on the request; any request may fail.  `Client.run` runs a client against something that
answers requests, one at a time and in order.
-/

namespace TracingSidecar

/-- A program that asks the cluster for things. -/
inductive Client (α : Type) where
  | done (value : α)
  | ask (request : Request) (next : Except ApiError request.Answer → Client α)

namespace Client

variable {α β σ : Type}

/-- Go on with the value of a client. -/
def bind : Client α → (α → Client β) → Client β
  | .done value, f => f value
  | .ask request next, f => .ask request fun answer => (next answer).bind f

instance : Monad Client where
  pure := .done
  bind := .bind

/-- Send a request. -/
def send (request : Request) : Client (Except ApiError request.Answer) := .ask request .done

/-- Send a request about a named object; without a name nothing is sent. -/
def sendNamed (name : String) (request : Request) : Client (Except ApiError request.Answer) :=
  if name = "" then .done (.error .missingName) else send request

/-- Something that answers requests and may change while it does. -/
abbrev Handler (σ : Type) := (request : Request) → σ → Except ApiError request.Answer × σ

/-- Run a client. -/
def run (handle : Handler σ) : Client α → σ → α × σ
  | .done value, state => (value, state)
  | .ask request next, state =>
      let (answer, state) := handle request state
      (next answer).run handle state

@[simp] theorem run_ask (handle : Handler σ) (request : Request)
    (next : Except ApiError request.Answer → Client α) (state : σ) :
    (ask request next).run handle state =
      (next (handle request state).1).run handle (handle request state).2 := rfl

@[simp] theorem run_bind (handle : Handler σ) (c : Client α) (f : α → Client β) (state : σ) :
    (c.bind f).run handle state =
      (f (c.run handle state).1).run handle (c.run handle state).2 := by
  induction c generalizing state with
  | done value => rfl
  | ask request next ih => exact ih _ _

@[simp] theorem run_pure (handle : Handler σ) (value : α) (state : σ) :
    (pure value : Client α).run handle state = (value, state) := rfl

@[simp] theorem run_andThen (handle : Handler σ) (c : Client α) (f : α → Client β) (state : σ) :
    (c >>= f).run handle state =
      (f (c.run handle state).1).run handle (c.run handle state).2 := run_bind handle c f state

@[simp] theorem run_send (handle : Handler σ) (request : Request) (state : σ) :
    (send request).run handle state = handle request state := rfl

/-- With a name, a request about a named object is sent like any other. -/
theorem run_sendNamed (handle : Handler σ) (name : String) (request : Request) (state : σ)
    (named : name ≠ "") : (sendNamed name request).run handle state = handle request state := by
  rw [sendNamed, if_neg named, run_send]

end Client

end TracingSidecar
