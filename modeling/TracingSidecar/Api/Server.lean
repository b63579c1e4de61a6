import TracingSidecar.Api.Client
import TracingSidecar.Api.Cluster

/-!
# Servers

A `Server` answers requests from a cluster, unless a fault is in force for the request, and keeps a
log of what it was asked.  A request whose address has no target does not reach it.
-/

namespace TracingSidecar

/-- A failure that befalls requests with a method and path, every time or a number of times. -/
structure Fault where
  method : String
  path : String
  error : ApiError
  times : Option Nat := none
  deriving DecidableEq

namespace Fault

def applies (method path : String) (fault : Fault) : Bool :=
  fault.method = method && fault.path = path && fault.times ≠ some 0

/-- The failure that a request meets, and the faults that are left. -/
def strike? (method path : String) : List Fault → Option (ApiError × List Fault)
  | [] => none
  | fault :: rest =>
      if fault.applies method path then
        some (fault.error, { fault with times := fault.times.map (· - 1) } :: rest)
      else (strike? method path rest).map fun (error, rest) => (error, fault :: rest)

end Fault

/-- A request that reached the server, with the status of the reply if there was one. -/
structure LogEntry where
  request : Request
  target : Target
  status : Option Nat
  deriving DecidableEq

/-- A cluster behind a server. -/
structure Server where
  cluster : Cluster := {}
  faults : List Fault := []
  log : List LogEntry := []
  deriving DecidableEq, Inhabited

namespace Server

/-- The status of a reply. -/
def statusOf : Except ApiError Reply → Option Nat
  | .ok _ => some 200
  | .error (.status code _ _) => some code
  | .error _ => none

/-- Reply to a request: by the first fault that applies, or from the cluster. -/
def reply (server : Server) (request : Request) (target : Target) :
    Except ApiError Reply × Server :=
  match Fault.strike? request.method target.path server.faults with
  | some (error, faults) => (.error error, { server with faults })
  | none =>
      let (reply, cluster) := server.cluster.reply target.path (request.body?.map (·.encode))
      (reply, { server with cluster })

/-- Answer a request, and note it in the log. -/
def handle : Client.Handler Server := fun request server =>
  match request.target? with
  | none => (.error .badAddress, server)
  | some target =>
      let (reply, server) := server.reply request target
      (reply.bind request.readReply,
        { server with log := server.log ++ [⟨request, target, statusOf reply⟩] })

/-- Run a client against a server. -/
def run {α : Type} (client : Client α) (server : Server) : α × Server :=
  client.run handle server

/-- The log so far, and the server with an empty log. -/
def takeLog (server : Server) : List LogEntry × Server := (server.log, { server with log := [] })

end Server

end TracingSidecar
