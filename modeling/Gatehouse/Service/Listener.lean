import Gatehouse.Service.Error

/-!
# Servers and the process

A server takes requests until it is told to stop, and then has a fixed time to finish
those that it has taken.  The process runs the server of the application and, on another
port, one for the metrics.
-/

namespace Gatehouse.Service

/-- How long a server may take to finish its requests, in milliseconds. -/
def graceMs : Nat := 10000

/-- What happens to a server. -/
inductive ServerEvent where
  | accepted
  | finished
  | failed (reason : String)
  /-- The time to finish is over. -/
  | expired
deriving DecidableEq, Repr

/-- What a server is doing. -/
inductive Phase where
  | running
  /-- It has been told to stop and finishes its requests. -/
  | draining
  /-- It has stopped as it was told to. -/
  | stopped
  | failed (error : StartupError)
deriving DecidableEq, Repr

/-- A server with the number of requests that it has not finished. -/
structure Server where
  name : String
  graceMs : Nat
  inFlight : Nat
  phase : Phase
deriving DecidableEq, Repr

namespace Server

/-- A server that has begun to listen. -/
def start (name : String) (graceMs : Nat) : Server :=
  ⟨name, graceMs, 0, .running⟩

/-- Tells a server to stop; it ends at once if it has nothing to finish. -/
def stop (server : Server) : Server :=
  match server.phase with
  | .running =>
    { server with phase := if server.inFlight = 0 then .stopped else .draining }
  | _ => server

/-- Finishes a request; the last one ends a server that has been told to stop. -/
def finishOne (server : Server) : Server :=
  let inFlight := server.inFlight - 1
  { server with
    inFlight := inFlight
    phase := if server.phase = .draining ∧ inFlight = 0 then .stopped else server.phase }

/-- Lets something happen to a server.  A server that has been told to stop accepts nothing, and
    only such a server can run out of time. -/
def happen (server : Server) (event : ServerEvent) : Server :=
  match server.phase, event with
  | .stopped, _ => server
  | .failed _, _ => server
  | .running, .accepted => { server with inFlight := server.inFlight + 1 }
  | .draining, .accepted => server
  | _, .finished => server.finishOne
  | _, .failed reason => { server with phase := .failed (.serve server.name reason) }
  | .running, .expired => server
  | .draining, .expired =>
    { server with phase := .failed (.shutdownTimeout server.name server.graceMs) }

/-- How a server ended, if it has. -/
def result? (server : Server) : Option (Except StartupError Unit) :=
  match server.phase with
  | .running => none
  | .draining => none
  | .stopped => some (.ok ())
  | .failed error => some (.error error)

end Server

/-- The signals that end the process. -/
inductive Signal where
  | interrupt
  | terminate
deriving DecidableEq, Repr

/-- The name of a signal. -/
def Signal.name : Signal → String
  | .interrupt => "SIGINT"
  | .terminate => "SIGTERM"

/-- The process: its servers, and whether it is shutting down. -/
structure Process where
  main : Server
  /-- The server of the metrics, if they have a port of their own. -/
  metrics : Option Server
  stopping : Bool
deriving DecidableEq, Repr

/-- What happens to the process. -/
inductive ProcessEvent where
  | signal (signal : Signal)
  | main (event : ServerEvent)
  | metrics (event : ServerEvent)
deriving DecidableEq, Repr

namespace Process

/-- The process when its servers have begun to listen. -/
def start (separateMetrics : Bool) : Process where
  main := .start "http" graceMs
  metrics := if separateMetrics then some (.start "metrics" graceMs) else none
  stopping := false

/-- Tells all servers to stop. -/
def stopAll (process : Process) : Process :=
  ⟨process.main.stop, process.metrics.map Server.stop, true⟩

/-- Lets something happen to the process.  The first signal, or the end of the main server, tells
    all servers to stop. -/
def happen (process : Process) : ProcessEvent → Process
  | .signal _ => if process.stopping then process else process.stopAll
  | .main event =>
    let next := { process with main := process.main.happen event }
    if next.main.result?.isSome ∧ !next.stopping then next.stopAll else next
  | .metrics event => { process with metrics := process.metrics.map (·.happen event) }

/-- Lets a number of things happen in turn. -/
def run (process : Process) (events : List ProcessEvent) : Process :=
  events.foldl happen process

/-- How the process ended, if all its servers have: as the main server did, unless that one ended
    well and the one of the metrics did not. -/
def result? (process : Process) : Option (Except StartupError Unit) :=
  match process.main.result?, process.metrics with
  | none, _ => none
  | some result, none => some result
  | some result, some metrics =>
    metrics.result?.map fun metricsResult =>
      match result with
      | .ok () => metricsResult
      | .error error => .error error

end Process

/-- The exit status of a result. -/
def exitStatus : Except StartupError Unit → Nat
  | .ok () => 0
  | .error _ => 1

end Gatehouse.Service
