/-!
# Requests to shut down

One trigger and any number of waits for it.  They share a flag with a version that grows
whenever the flag is set; a wait looks at the flag, and while it is down waits for a
version that it has not seen or for the trigger to be gone.  A trigger that is gone counts
as a request to shut down.
-/

namespace Gatehouse.Service

/-- What the trigger and the waits share. -/
structure Channel where
  raised : Bool
  version : Nat
  /-- Whether the trigger is gone. -/
  closed : Bool
deriving DecidableEq, Repr

namespace Channel

/-- A channel whose trigger has not been used. -/
def start : Channel := ⟨false, 0, false⟩

/-- Uses the trigger. -/
def trigger (channel : Channel) : Channel :=
  { channel with raised := true, version := channel.version + 1 }

/-- Lets go of the trigger. -/
def close (channel : Channel) : Channel :=
  { channel with closed := true }

/-- Whether the process is to shut down. -/
def requested (channel : Channel) : Bool :=
  channel.raised || channel.closed

end Channel

/-- A wait, with the version that it has seen last. -/
inductive Wait where
  /-- Before it looks at the flag. -/
  | looking (seen : Nat)
  /-- After it has seen the flag down. -/
  | waiting (seen : Nat)
  | over
deriving DecidableEq, Repr

namespace Wait

/-- The version that a wait has seen last. -/
def seen : Wait → Nat
  | .looking version => version
  | .waiting version => version
  | .over => 0

/-- The next step of a wait, if there is one that it need not be woken up for. -/
def step? (channel : Channel) : Wait → Option Wait
  | .looking _ => some (if channel.raised then .over else .waiting channel.version)
  | .waiting version =>
    if version < channel.version then some (.looking channel.version)
    else if channel.closed then some .over
    else none
  | .over => none

end Wait

/-- A channel with its waits. -/
structure Waits where
  channel : Channel
  waits : List Wait
deriving DecidableEq, Repr

/-- Something that happens to a channel with its waits. -/
inductive WaitEvent where
  | trigger
  | close
  /-- A new wait that starts out with what another one has seen. -/
  | clone (on : Nat)
  /-- One wait takes a step. -/
  | step (on : Nat)
deriving DecidableEq, Repr

namespace Waits

/-- A channel with one wait that has not begun. -/
def start : Waits := ⟨.start, [.looking 0]⟩

/-- Lets something happen; a trigger that is gone cannot be used, and neither can a wait that is
    not there or cannot take a step. -/
def happen (state : Waits) : WaitEvent → Waits
  | .trigger =>
    if state.channel.closed then state else { state with channel := state.channel.trigger }
  | .close => { state with channel := state.channel.close }
  | .clone on =>
    match state.waits[on]? with
    | some wait => { state with waits := state.waits ++ [.looking wait.seen] }
    | none => state
  | .step on =>
    match state.waits[on]?.bind (·.step? state.channel) with
    | some next => { state with waits := state.waits.set on next }
    | none => state

/-- Lets a number of things happen in turn. -/
def run (state : Waits) (events : List WaitEvent) : Waits :=
  events.foldl happen state

/-- Whether a wait cannot go on unless it is woken up. -/
def isBlocked (state : Waits) (on : Nat) : Bool :=
  match state.waits[on]? with
  | some .over => false
  | some wait => (wait.step? state.channel).isNone
  | none => false

end Waits

end Gatehouse.Service
