import Gatehouse.Service.Listener
import Gatehouse.Service.Shutdown

/-!
# Serving until told to stop

A server takes requests until shutdown is requested, and ends once it has finished them
all.  What serves with it notices, in any order, that the server has ended, that shutdown
is requested and that the time is over that the server is left after the request.  The
process serves so on one port or on two, and notices as well when a signal arrives and
when its servers report how they ended.

Every task that serves comes to a report: it neither panics nor is it cancelled.  That a main
task which is lost without a report would end the process before the server of the metrics
is waited for is left out.
-/

namespace Gatehouse.Service

/-- How far serving has come. -/
inductive ServeStage where
  /-- Waiting for the server to end or for the request to shut down. -/
  | serving (wait : Wait)
  /-- Leaving the server the rest of its time, which may be over. -/
  | draining (expired : Bool)
  | reported (result : Except StartupError Unit)
deriving Repr

/-- A server, and what serves with it. -/
structure Serving where
  name : String
  graceMs : Nat
  inFlight : Nat
  /-- Why the server has failed, if it has. -/
  failure : Option String
  stage : ServeStage
deriving Repr

/-- What happens while serving. -/
inductive ServeEvent where
  | server (event : ServerEvent)
  /-- It is looked whether the server has ended. -/
  | join
  /-- The wait for the request takes a step. -/
  | wait
  /-- It is looked whether the time of a server that has not ended is over. -/
  | timeout
deriving DecidableEq, Repr

namespace Serving

/-- Serving when it has begun to listen. -/
def start (name : String) (graceMs : Nat) : Serving :=
  ⟨name, graceMs, 0, none, .serving (.looking 0)⟩

/-- How the server has ended, if it has: it has failed, or shutdown is requested and it has nothing
    to finish. -/
def ended? (channel : Channel) (serving : Serving) : Option (Except StartupError Unit) :=
  match serving.failure with
  | some reason => some (.error (.serve serving.name reason))
  | none => if channel.requested ∧ serving.inFlight = 0 then some (.ok ()) else none

/-- How serving ended, if it has. -/
def result? (serving : Serving) : Option (Except StartupError Unit) :=
  match serving.stage with
  | .reported result => some result
  | .serving _ => none
  | .draining _ => none

/-- Lets something happen to a server that has not ended.  It accepts nothing once shutdown is
    requested, and its time begins to run when that is noticed. -/
def serve (channel : Channel) (serving : Serving) : ServerEvent → Serving
  | .accepted =>
    if channel.requested then serving else { serving with inFlight := serving.inFlight + 1 }
  | .finished => { serving with inFlight := serving.inFlight - 1 }
  | .failed reason => { serving with failure := some reason }
  | .expired =>
    match serving.stage with
    | .draining _ => { serving with stage := .draining true }
    | .serving _ => serving
    | .reported _ => serving

/-- Lets the wait for the request take a step. -/
def wait (channel : Channel) (serving : Serving) : Serving :=
  match serving.stage with
  | .serving wait =>
    match wait.step? channel with
    | some .over => { serving with stage := .draining false }
    | some next => { serving with stage := .serving next }
    | none => serving
  | .draining _ => serving
  | .reported _ => serving

/-- Gives up on a server that has not ended, if its time is over. -/
def giveUp (serving : Serving) : Serving :=
  match serving.stage with
  | .draining true =>
    { serving with stage := .reported (.error (.shutdownTimeout serving.name serving.graceMs)) }
  | .draining false => serving
  | .serving _ => serving
  | .reported _ => serving

/-- Lets something happen while serving.  Nothing more happens once it is over, and nothing more to
    a server that has ended. -/
def happen (channel : Channel) (serving : Serving) (event : ServeEvent) : Serving :=
  match serving.result?, serving.ended? channel, event with
  | some _, _, _ => serving
  | none, _, .wait => serving.wait channel
  | none, some result, .join => { serving with stage := .reported result }
  | none, some _, .server _ => serving
  | none, some _, .timeout => serving
  | none, none, .server event => serving.serve channel event
  | none, none, .join => serving
  | none, none, .timeout => serving.giveUp

end Serving

/-- Serving, with the channel on which shutdown is requested. -/
structure Served where
  channel : Channel
  serving : Serving
deriving Repr

/-- What happens around serving. -/
inductive ServedEvent where
  /-- The trigger is used. -/
  | trigger
  /-- The trigger is let go of. -/
  | close
  | serve (event : ServeEvent)
deriving DecidableEq, Repr

namespace Served

def start (name : String) (graceMs : Nat) : Served :=
  ⟨.start, .start name graceMs⟩

/-- Lets something happen; a trigger that is gone cannot be used. -/
def happen (served : Served) : ServedEvent → Served
  | .trigger =>
    if served.channel.closed then served else { served with channel := served.channel.trigger }
  | .close => { served with channel := served.channel.close }
  | .serve event => { served with serving := served.serving.happen served.channel event }

/-- Lets a number of things happen in turn. -/
def run (served : Served) (events : List ServedEvent) : Served :=
  events.foldl happen served

end Served

/-- How far the process has come. -/
inductive RunStage where
  /-- Waiting for a signal or for the main server to report. -/
  | selecting
  /-- Waiting for the main server after a signal. -/
  | joining
  /-- Waiting for the server of the metrics after the main one. -/
  | collecting (main : Except StartupError Unit)
  | reported (result : Except StartupError Unit)
deriving Repr

/-- The process, while it serves. -/
structure Running where
  channel : Channel
  main : Serving
  /-- The server of the metrics, if they have a port of their own. -/
  metrics : Option Serving
  /-- Whether a signal has arrived. -/
  signalled : Bool
  stage : RunStage
deriving Repr

/-- What happens to the process while it serves. -/
inductive RunEvent where
  | signal (signal : Signal)
  | main (event : ServeEvent)
  | metrics (event : ServeEvent)
  /-- It is looked whether a signal has arrived. -/
  | heed
  /-- It is looked whether the main server has reported. -/
  | join
  /-- It is looked whether the server of the metrics has reported. -/
  | collect
deriving DecidableEq, Repr

/-- The report of the main server, or if that is a good one, the report of the other server. -/
def bothReports (main metrics : Except StartupError Unit) : Except StartupError Unit :=
  match main with
  | .ok () => metrics
  | .error error => .error error

namespace Running

/-- The process when its servers have begun to listen. -/
def start (separateMetrics : Bool) : Running where
  channel := .start
  main := .start "http" graceMs
  metrics := if separateMetrics then some (.start "metrics" graceMs) else none
  signalled := false
  stage := .selecting

/-- Looks whether a signal has arrived. -/
def heed (running : Running) : Running :=
  match running.stage, running.signalled with
  | .selecting, true => { running with channel := running.channel.trigger, stage := .joining }
  | _, _ => running

/-- Looks whether the main server has reported. -/
def join (running : Running) : Running :=
  match running.stage, running.main.result? with
  | .selecting, some result =>
    { running with channel := running.channel.trigger, stage := .collecting result }
  | .joining, some result => { running with stage := .collecting result }
  | _, _ => running

/-- Looks whether the server of the metrics has reported, if there is one. -/
def collect (running : Running) : Running :=
  match running.stage, running.metrics with
  | .collecting main, none => { running with stage := .reported main }
  | .collecting main, some metrics =>
    match metrics.result? with
    | some result => { running with stage := .reported (bothReports main result) }
    | none => running
  | _, _ => running

/-- Lets something happen to the process.  The first thing that it notices, a signal or the report
    of the main server, tells all servers to stop. -/
def happen (running : Running) : RunEvent → Running
  | .signal _ => { running with signalled := true }
  | .main event => { running with main := running.main.happen running.channel event }
  | .metrics event =>
    { running with metrics := running.metrics.map (·.happen running.channel event) }
  | .heed => running.heed
  | .join => running.join
  | .collect => running.collect

/-- Lets a number of things happen in turn. -/
def run (running : Running) (events : List RunEvent) : Running :=
  events.foldl happen running

end Running

end Gatehouse.Service
