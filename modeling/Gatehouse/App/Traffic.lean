import Gatehouse.App.Run

/-!
# Requests at the same time

Requests that come in while others are still being answered.  What they share is what is
counted.  Each request takes the steps that its handling consists of: two for being
counted, where a handler counts it, and one for being answered.  The steps of several
requests come in any order.
-/

namespace Gatehouse.App

/-- A request that comes in on a port. -/
structure Arrival where
  entry : Entry
  visit : Visit

/-- What is done for a request that came in. -/
def Arrival.handling (state : State) (arrival : Arrival) : Handling (Metrics.Counter → Outcome) :=
  App.handling state arrival.entry arrival.visit.around arrival.visit.request

/-- How far the answer to a request has come. -/
inductive Stage where
  /-- There is more to be done. -/
  | ahead (rest : Handling (Metrics.Counter → Outcome))
  | answered (outcome : Outcome)

/-- A request with how far its answer has come. -/
structure Pending where
  arrival : Arrival
  stage : Stage

namespace Pending

/-- A request that has just come in. -/
def ofArrival (state : State) (arrival : Arrival) : Pending :=
  ⟨arrival, .ahead (arrival.handling state)⟩

/-- The next step of a request. -/
def advance (tally : Tally) (pending : Pending) : Pending × Tally :=
  match pending.stage with
  | .ahead (.countExported rest) =>
    (⟨pending.arrival, .ahead rest⟩, { tally with requests := tally.requests.countExported })
  | .ahead (.countTotal rest) =>
    (⟨pending.arrival, .ahead rest⟩, { tally with requests := tally.requests.countTotal })
  | .ahead (.done answer) =>
    let outcome := (answer tally.requests).forMethod pending.arrival.visit.request.method
    (⟨pending.arrival, .answered outcome⟩,
      { tally with deliveries := tally.deliveries + outcome.delivered.toNat })
  | .answered _ => (pending, tally)

end Pending

/-- What has been counted, and the requests so far in the order in which they came in. -/
structure Traffic where
  tally : Tally
  requests : List Pending

/-- What happens to the traffic: a request comes in, or one of those that did takes its next step. -/
inductive Event where
  | arrive (arrival : Arrival)
  | advance (request : Nat)

namespace Traffic

/-- No requests so far. -/
def start (tally : Tally) : Traffic := ⟨tally, []⟩

/-- Lets one event happen. -/
def step (state : State) (traffic : Traffic) : Event → Traffic
  | .arrive arrival => ⟨traffic.tally, traffic.requests ++ [.ofArrival state arrival]⟩
  | .advance request =>
    match traffic.requests[request]? with
    | none => traffic
    | some pending =>
      let (next, tally) := pending.advance traffic.tally
      ⟨tally, traffic.requests.set request next⟩

/-- Lets events happen in turn. -/
def run (state : State) (traffic : Traffic) (events : List Event) : Traffic :=
  events.foldl (step state) traffic

end Traffic

/-- The requests that come in with events. -/
def arrivals (events : List Event) : List Arrival :=
  events.filterMap fun event =>
    match event with
    | .arrive arrival => some arrival
    | .advance _ => none

end Gatehouse.App
