import TracingSidecar.Api.Server

/-!
# The timeline of a controller

A controller watches one object.  It runs a pass for the object when the object appears or changes,
and 60 seconds after a pass that failed; an object that is there from the start appears in second 0.
An event takes the place of a pending retry, and all that happens in one second happens before the
pass of that second.  Passes take no time, and once the object is gone nothing runs.
-/

namespace TracingSidecar

/-- How long a failed pass waits for its retry, in seconds. -/
def retryDelay : Nat := 60

/-- What a controller is told about its object. -/
inductive WatchEvent (α : Type) where
  | applied (object : α)
  | deleted
  deriving DecidableEq

/-- A controller between two passes. -/
structure Controller (α : Type) where
  object : Option α := none
  retryAt : Option Nat := none
  server : Server
  /-- The requests so far, each with the second in which it was sent. -/
  sent : List (Nat × LogEntry) := []

namespace Controller

variable {α : Type}

/-- What is run for an object; it may fail. -/
abbrev Pass (α : Type) := α → Client (Except OperatorError Unit)

/-- Run the pass for the object, if there is one, at a second. -/
def runAt (pass : Pass α) (now : Nat) (c : Controller α) : Controller α :=
  match c.object with
  | none => { c with retryAt := none }
  | some object =>
      let (result, server) := c.server.run (pass object)
      let (log, server) := server.takeLog
      { c with
        retryAt := match result with
          | .ok _ => none
          | .error _ => some (now + retryDelay)
        server
        sent := c.sent ++ log.map fun entry => (now, entry) }

/-- Run the retries that are due before a second.  Every retry is due 60 seconds after the one
before it, so `bound` of them are more than enough. -/
def retryUntil (pass : Pass α) (limit : Nat) : Nat → Controller α → Controller α
  | 0, c => c
  | bound + 1, c =>
      match c.retryAt with
      | some due => if due < limit then retryUntil pass limit bound (c.runAt pass due) else c
      | none => c

/-- Take note of an event, without a pass. -/
def note (c : Controller α) : WatchEvent α → Controller α
  | .applied object => { c with object := some object }
  | .deleted => { c with object := none, retryAt := none }

/-- Whether an event calls for a pass. -/
def WatchEvent.callsForPass : WatchEvent α → Bool
  | .applied _ => true
  | .deleted => false

/-- What happens in one second: retries due before it, then its events, then a pass if one of them
calls for it. -/
def step (pass : Pass α) (c : Controller α) (now : Nat) (events : List (WatchEvent α)) :
    Controller α :=
  let c := events.foldl note (c.retryUntil pass now now)
  if events.any WatchEvent.callsForPass then c.runAt pass now else c

/-- The events of one second together, in the order of the seconds. -/
def bySecond (events : List (Nat × WatchEvent α)) : List (Nat × List (WatchEvent α)) :=
  match events with
  | [] => []
  | (second, event) :: rest =>
      match bySecond rest with
      | (next, together) :: later =>
          if second = next then (second, event :: together) :: later
          else (second, [event]) :: (next, together) :: later
      | [] => [(second, [event])]

/-- All that a controller is told, from the object that is there at the start on. -/
def history (initial : Option α) (events : List (Nat × WatchEvent α)) :
    List (Nat × WatchEvent α) :=
  (initial.map fun object => (0, .applied object)).toList ++ events

/-- The requests that a controller sends before a second. -/
def runUntil (pass : Pass α) (limit : Nat) (initial : Option α)
    (events : List (Nat × WatchEvent α)) (server : Server) : List (Nat × LogEntry) :=
  let seconds := bySecond ((history initial events).filter fun event => event.1 < limit)
  let c := seconds.foldl (fun c (now, together) => c.step pass now together)
    ({ server } : Controller α)
  (c.retryUntil pass limit limit).sent

end Controller

end TracingSidecar
