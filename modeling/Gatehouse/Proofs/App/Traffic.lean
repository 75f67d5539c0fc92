import Gatehouse.Proofs.App.Scrape
import Gatehouse.Proofs.Metrics.Counting
import Mathlib.Algebra.GroupWithZero.Nat

/-!
# What is counted while requests overlap

After every step each count, with what the requests on their way are still to add to it, is
what it was plus the requests that came in to be counted.  Once all requests are answered
nothing is left to be added.
-/

namespace Gatehouse.App

/-- How many steps a handling consists of. -/
def Handling.steps {α : Type} : Handling α → Nat
  | .done _ => 1
  | .countExported next => next.steps + 1
  | .countTotal next => next.steps + 1

namespace Stage

/-- How often a request is still to be counted where a scrape shows it. -/
def exportsLeft : Stage → Nat
  | ahead rest => rest.exports
  | answered _ => 0

/-- How often a request is still to be counted where it gets its number. -/
def totalsLeft : Stage → Nat
  | ahead rest => rest.totals
  | answered _ => 0

/-- How many steps a request has before it. -/
def stepsLeft : Stage → Nat
  | ahead rest => rest.steps
  | answered _ => 0

def isAnswered : Stage → Bool
  | ahead _ => false
  | answered _ => true

end Stage

namespace Pending

variable (state : State) (pending : Pending)

/-- How many mails a request is still to deliver. -/
def mailsLeft : Nat :=
  if pending.stage.isAnswered then 0 else (pending.arrival.delivers state).toNat

/-- What is before a request leads to the result of its handling. -/
def IsUnderway : Prop :=
  ∀ rest, pending.stage = .ahead rest → rest.result = pending.arrival.answer state

/-- A step of a request takes from what it is still to add to a count what it adds to it. -/
def Moves (count : Tally → Nat) (left : Pending → Nat) (tally : Tally) (next : Pending)
    (later : Tally) : Prop :=
  count later + left next = count tally + left pending

/-- What a step of a request does to the three counts. -/
structure IsStep (tally : Tally) (next : Pending) (later : Tally) : Prop where
  arrival : next.arrival = pending.arrival
  underway : next.IsUnderway state
  exported : pending.Moves (·.requests.exported) (·.stage.exportsLeft) tally next later
  total : pending.Moves (·.requests.total) (·.stage.totalsLeft) tally next later
  deliveries : pending.Moves (·.deliveries) (mailsLeft state) tally next later

variable {state} {pending}

/-- Every step of a request adds to the counts what it takes from what is left. -/
theorem isStep_advance (coherent : state.config.IsCoherent) (tally : Tally)
    (underway : pending.IsUnderway state) :
    pending.IsStep state tally (pending.advance tally).1 (pending.advance tally).2 := by
  obtain ⟨arrival, stage⟩ := pending
  cases stage with
  | answered outcome => exact ⟨rfl, underway, rfl, rfl, rfl⟩
  | ahead rest =>
    have result : rest.result = arrival.answer state := underway rest rfl
    cases rest with
    | countExported next =>
      refine ⟨rfl, ?_, Nat.add_right_comm _ 1 _, rfl, rfl⟩
      rintro _ ⟨⟩
      exact result
    | countTotal next =>
      refine ⟨rfl, ?_, rfl, Nat.add_right_comm _ 1 _, rfl⟩
      rintro _ ⟨⟩
      exact result
    | done answer =>
      obtain rfl : answer = arrival.answer state := result
      refine ⟨rfl, nofun, rfl, rfl, ?_⟩
      exact congrArg (tally.deliveries + ·.toNat) (arrival.delivered_answer coherent _)

theorem stepsLeft_advance (tally : Tally) (unanswered : pending.stage.isAnswered = false) :
    (pending.advance tally).1.stage.stepsLeft < pending.stage.stepsLeft := by
  obtain ⟨arrival, stage⟩ := pending
  cases stage with
  | answered outcome => cases unanswered
  | ahead rest => cases rest <;> exact Nat.lt_succ_self _

end Pending

namespace Traffic

variable {state : State}

/-- A request in the midst of others takes its next step. -/
theorem step_advance_append (state : State) (tally : Tally) (front back : List Pending)
    (pending : Pending) :
    step state ⟨tally, front ++ pending :: back⟩ (.advance front.length) =
      ⟨(pending.advance tally).2, front ++ (pending.advance tally).1 :: back⟩ := by
  simp [step]

/-- What an event does: nothing, or a request comes in, or one of those that did takes its next
    step. -/
theorem step_cases (state : State) (traffic : Traffic) (event : Event) :
    (arrivals [event] = [] ∧ traffic.step state event = traffic) ∨
    (∃ arrival, arrivals [event] = [arrival] ∧ traffic.step state event =
      ⟨traffic.tally, traffic.requests ++ [.ofArrival state arrival]⟩) ∨
    ∃ front pending back, arrivals [event] = [] ∧
      traffic.requests = front ++ pending :: back ∧
      traffic.step state event =
        ⟨(pending.advance traffic.tally).2,
          front ++ (pending.advance traffic.tally).1 :: back⟩ := by
  obtain ⟨tally, requests⟩ := traffic
  cases event with
  | arrive arrival => exact .inr (.inl ⟨arrival, rfl, rfl⟩)
  | advance request =>
    cases found : requests[request]? with
    | none =>
      refine .inl ⟨rfl, ?_⟩
      rw [step, found]
    | some pending =>
      obtain ⟨inside, same⟩ := List.getElem?_eq_some_iff.mp found
      have split : requests = requests.take request ++ pending :: requests.drop (request + 1) := by
        rw [← same, List.getElem_cons_drop, List.take_append_drop]
      have next := step_advance_append state tally (requests.take request)
        (requests.drop (request + 1)) pending
      rw [← split, List.length_take_of_le inside.le] at next
      exact .inr (.inr ⟨_, _, _, rfl, split, next⟩)

/-- A count and what is still to be added to it are together what the count was at the start and one
    for each request that is in it. -/
def Conserves (count : Tally → Nat) (left : Pending → Nat) (among : Arrival → Bool) (base : Tally)
    (traffic : Traffic) : Prop :=
  count traffic.tally + (traffic.requests.map left).sum =
    count base + (traffic.requests.map (·.arrival)).countP among

namespace Conserves

variable {count : Tally → Nat} {left : Pending → Nat} {among : Arrival → Bool}
  {base tally : Tally}

theorem arrive {requests : List Pending}
    (conserves : Conserves count left among base ⟨tally, requests⟩) {pending : Pending}
    (fresh : left pending = (among pending.arrival).toNat) :
    Conserves count left among base ⟨tally, requests ++ [pending]⟩ := by
  have one : [pending.arrival].countP among = (among pending.arrival).toNat := by
    cases same : among pending.arrival <;> simp [same]
  unfold Conserves at conserves ⊢
  rw [List.map_append, List.sum_append, List.map_append, List.countP_append, List.map_singleton,
    List.map_singleton, one, List.sum_singleton, fresh, ← Nat.add_assoc, ← Nat.add_assoc,
    conserves]

theorem advance {later : Tally} {front back : List Pending} {pending next : Pending}
    (conserves : Conserves count left among base ⟨tally, front ++ pending :: back⟩)
    (arrival : next.arrival = pending.arrival)
    (moves : pending.Moves count left tally next later) :
    Conserves count left among base ⟨later, front ++ next :: back⟩ := by
  unfold Conserves Pending.Moves at *
  simp only [List.map_append, List.map_cons, List.sum_append, List.sum_cons, arrival] at *
  omega

/-- Where nothing is left to be added, a count is what it was and the requests that are in it. -/
theorem settled {traffic : Traffic} (conserves : Conserves count left among base traffic)
    (none : ∀ pending ∈ traffic.requests, left pending = 0) :
    count traffic.tally = count base + (traffic.requests.map (·.arrival)).countP among := by
  have nothing : (traffic.requests.map left).sum = 0 := by
    rwa [List.sum_eq_zero_iff_forall_eq_nat, List.forall_mem_map]
  rw [← conserves, nothing, Nat.add_zero]

end Conserves

/-- Nothing is lost and nothing is counted that did not come in. -/
structure IsAccounted (state : State) (base : Tally) (traffic : Traffic) : Prop where
  underway : ∀ pending ∈ traffic.requests, pending.IsUnderway state
  exported : Conserves (·.requests.exported) (·.stage.exportsLeft) (·.isDesignated) base traffic
  total : Conserves (·.requests.total) (·.stage.totalsLeft) (·.isDesignated) base traffic
  deliveries : Conserves (·.deliveries) (·.mailsLeft state) (·.delivers state) base traffic

theorem isAccounted_start (base : Tally) : IsAccounted state base (start base) where
  underway := by
    intro pending member
    cases member
  exported := rfl
  total := rfl
  deliveries := rfl

/-- An event keeps the account. -/
theorem IsAccounted.step (coherent : state.config.IsCoherent) {base : Tally} {traffic : Traffic}
    (accounted : traffic.IsAccounted state base) (event : Event) :
    (traffic.step state event).IsAccounted state base := by
  rcases step_cases state traffic event with
    ⟨-, same⟩ | ⟨arrival, -, next⟩ | ⟨front, pending, back, -, split, next⟩
  · rwa [same]
  · obtain ⟨underway, exported, total, deliveries⟩ := accounted
    rw [next]
    refine ⟨?_, exported.arrive (arrival.exports_handling coherent),
      total.arrive (arrival.totals_handling coherent), deliveries.arrive rfl⟩
    intro pending member
    rcases List.mem_append.mp member with before | last
    · exact underway pending before
    · rw [List.mem_singleton.mp last]
      rintro _ ⟨⟩
      rfl
  · obtain ⟨tally, requests⟩ := traffic
    obtain rfl : requests = front ++ pending :: back := split
    obtain ⟨underway, exported, total, deliveries⟩ := accounted
    have taken := Pending.isStep_advance coherent tally
      (underway pending (List.mem_append_right _ List.mem_cons_self))
    rw [next]
    refine ⟨?_, exported.advance taken.arrival taken.exported,
      total.advance taken.arrival taken.total,
      deliveries.advance taken.arrival taken.deliveries⟩
    intro other present
    rcases List.mem_append.mp present with before | behind
    · exact underway other (List.mem_append_left _ before)
    · rcases List.mem_cons.mp behind with rfl | behind
      · exact taken.underway
      · exact underway other (List.mem_append_right _ (List.mem_cons_of_mem _ behind))

theorem IsAccounted.run (coherent : state.config.IsCoherent) {base : Tally} {traffic : Traffic}
    (accounted : traffic.IsAccounted state base) (events : List Event) :
    (traffic.run state events).IsAccounted state base := by
  induction events generalizing traffic with
  | nil => exact accounted
  | cons event events ih => exact ih (accounted.step coherent event)

theorem arrival_advance (tally : Tally) (pending : Pending) :
    (pending.advance tally).1.arrival = pending.arrival := by
  unfold Pending.advance
  split <;> rfl

/-- The requests are those that came in, in their order. -/
theorem arrivals_step (state : State) (traffic : Traffic) (event : Event) :
    (traffic.step state event).requests.map (·.arrival) =
      traffic.requests.map (·.arrival) ++ arrivals [event] := by
  rcases step_cases state traffic event with
    ⟨none, same⟩ | ⟨arrival, one, next⟩ | ⟨front, pending, back, none, split, next⟩
  · rw [none, same, List.append_nil]
  · rw [one, next, List.map_append]
    rfl
  · rw [none, next, split]
    simp [arrival_advance]

theorem arrivals_append (front back : List Event) :
    arrivals (front ++ back) = arrivals front ++ arrivals back :=
  List.filterMap_append

theorem arrivals_run (state : State) (traffic : Traffic) (events : List Event) :
    (traffic.run state events).requests.map (·.arrival) =
      traffic.requests.map (·.arrival) ++ arrivals events := by
  induction events generalizing traffic with
  | nil => exact (List.append_nil _).symm
  | cons event events ih =>
    have first := arrivals_step state traffic event
    rw [← List.singleton_append, arrivals_append, ← List.append_assoc, ← first]
    exact ih (traffic.step state event)

/-- Whether every request has been answered. -/
def IsSettled (traffic : Traffic) : Prop :=
  ∀ pending ∈ traffic.requests, pending.stage.isAnswered = true

/-- The requests that came in can all be answered, whatever has happened so far. -/
theorem exists_isSettled_run (state : State) (traffic : Traffic) :
    ∃ events, arrivals events = [] ∧ (traffic.run state events).IsSettled := by
  -- As long as a request is not answered, a step of it leaves fewer steps to be done.
  induction steps : (traffic.requests.map (·.stage.stepsLeft)).sum using Nat.strongRecOn
    generalizing traffic with
  | ind left ih =>
    obtain ⟨tally, requests⟩ := traffic
    by_cases settled : (Traffic.mk tally requests).IsSettled
    · exact ⟨[], rfl, settled⟩
    · obtain ⟨pending, member, unanswered⟩ : ∃ pending ∈ requests,
          pending.stage.isAnswered = false := by
        simpa [IsSettled] using settled
      obtain ⟨front, back, rfl⟩ := List.append_of_mem member
      have fewer := Pending.stepsLeft_advance tally unanswered
      have lower : ((front ++ (pending.advance tally).1 :: back).map
          (·.stage.stepsLeft)).sum < left := by
        rw [← steps]
        simp only [List.map_append, List.map_cons, List.sum_append, List.sum_cons]
        omega
      obtain ⟨events, none, answered⟩ := ih _ lower ⟨(pending.advance tally).2, _⟩ rfl
      have next := step_advance_append state tally front back pending
      refine ⟨.advance front.length :: events, none, ?_⟩
      rw [run, List.foldl_cons, next]
      exact answered

/-- Once all requests are answered, those that are counted are in both counts, and those that
    deliver a mail have delivered it. -/
theorem IsAccounted.settled {base : Tally} {traffic : Traffic}
    (accounted : traffic.IsAccounted state base) (settled : traffic.IsSettled) :
    traffic.tally.requests.exported =
      base.requests.exported + (traffic.requests.map (·.arrival)).countP (·.isDesignated) ∧
    traffic.tally.requests.total =
      base.requests.total + (traffic.requests.map (·.arrival)).countP (·.isDesignated) ∧
    traffic.tally.deliveries =
      base.deliveries + (traffic.requests.map (·.arrival)).countP (·.delivers state) := by
  have finished (stage : Stage) (answered : stage.isAnswered = true) :
      stage.exportsLeft = 0 ∧ stage.totalsLeft = 0 := by
    cases stage with
    | ahead rest => cases answered
    | answered outcome => exact ⟨rfl, rfl⟩
  refine ⟨accounted.exported.settled ?_, accounted.total.settled ?_,
    accounted.deliveries.settled ?_⟩
  · exact fun pending member => (finished _ (settled pending member)).1
  · exact fun pending member => (finished _ (settled pending member)).2
  · intro pending member
    rw [Pending.mailsLeft, if_pos (settled pending member)]

/-- A request that takes all its steps in a row is answered and counted as if nothing else went
    on. -/
theorem run_replicate (state : State) (tally : Tally) (front : List Pending) (arrival : Arrival)
    (rest : Handling (Metrics.Counter → Outcome)) :
    run state ⟨tally, front ++ [⟨arrival, .ahead rest⟩]⟩
        (.replicate rest.steps (.advance front.length)) =
      let (outcome, later) := tally.settle arrival.visit.request.method rest
      ⟨later, front ++ [⟨arrival, .answered outcome⟩]⟩ := by
  induction rest generalizing tally with
  | done answer =>
    rw [Handling.steps, List.replicate_one, run, List.foldl_cons, step_advance_append]
    rfl
  | countExported next ih =>
    rw [Handling.steps, List.replicate_succ, run, List.foldl_cons, step_advance_append]
    exact ih { tally with requests := tally.requests.countExported }
  | countTotal next ih =>
    rw [Handling.steps, List.replicate_succ, run, List.foldl_cons, step_advance_append]
    exact ih { tally with requests := tally.requests.countTotal }

/-- The events that let requests in one after the other, each when the one before is answered; the
    first of them is the request with the number `first`. -/
def serially (state : State) (entry : Entry) (first : Nat) : List Visit → List Event
  | [] => []
  | visit :: visits =>
    .arrive ⟨entry, visit⟩ ::
      .replicate (Arrival.handling state ⟨entry, visit⟩).steps (.advance first) ++
        serially state entry (first + 1) visits

/-- To answer requests one after the other is one way for the steps to come. -/
theorem run_serially (state : State) (traffic : Traffic) (entry : Entry) (visits : List Visit) :
    (traffic.run state (serially state entry traffic.requests.length visits)).tally =
        (App.run state entry traffic.tally visits).2 ∧
      (traffic.IsSettled →
        (traffic.run state (serially state entry traffic.requests.length visits)).IsSettled) := by
  induction visits generalizing traffic with
  | nil => exact ⟨rfl, id⟩
  | cons visit visits ih =>
    obtain ⟨tally, requests⟩ := traffic
    have answered := run_replicate state tally requests ⟨entry, visit⟩
      (Arrival.handling state ⟨entry, visit⟩)
    obtain ⟨counted, settled⟩ := ih ⟨(serve state entry tally visit.around visit.request).2,
      requests ++ [⟨⟨entry, visit⟩,
        .answered (serve state entry tally visit.around visit.request).1⟩]⟩
    rw [List.length_append] at counted settled
    rw [serially, run, List.cons_append, List.foldl_cons, List.foldl_append, step]
    rw [run] at answered counted settled
    rw [Pending.ofArrival, answered]
    refine ⟨counted, fun before => settled ?_⟩
    intro pending member
    rcases List.mem_append.mp member with old | new
    · exact before pending old
    · rw [List.mem_singleton.mp new]
      rfl

theorem arrivals_serially (state : State) (entry : Entry) (first : Nat) (visits : List Visit) :
    arrivals (serially state entry first visits) = visits.map (⟨entry, ·⟩) := by
  have none (request count : Nat) : arrivals (.replicate count (.advance request)) = [] :=
    List.filterMap_eq_nil_iff.mpr fun event member => by rw [List.eq_of_mem_replicate member]
  induction visits generalizing first with
  | nil => rfl
  | cons visit visits ih =>
    have split : arrivals (serially state entry first (visit :: visits)) = ⟨entry, visit⟩ ::
        arrivals (.replicate _ (.advance first) ++ serially state entry (first + 1) visits) := rfl
    rw [split, arrivals_append, none, List.nil_append, ih, List.map_cons]

/-- Whether the traffic of an application can have become what it is. -/
def IsReached (state : State) (traffic : Traffic) : Prop :=
  ∃ events, (start .zero).run state events = traffic

/-- What events add to the counts from one moment without open requests to another one. -/
theorem IsReached.tally_run (coherent : state.config.IsCoherent) {before : Traffic}
    (reached : before.IsReached state) (idle : before.IsSettled) {events : List Event}
    (settled : (before.run state events).IsSettled) :
    (before.run state events).tally.requests.exported =
      (before.run state events).tally.requests.total ∧
    (before.run state events).tally.requests.total =
      before.tally.requests.total + (arrivals events).countP (·.isDesignated) ∧
    (before.run state events).tally.deliveries =
      before.tally.deliveries + (arrivals events).countP (·.delivers state) := by
  obtain ⟨earlier, rfl⟩ := reached
  have accounted := (isAccounted_start .zero).run coherent earlier
  obtain ⟨-, total, deliveries⟩ := accounted.settled idle
  obtain ⟨exportedAfter, totalAfter, deliveriesAfter⟩ :=
    (accounted.run coherent events).settled settled
  rw [arrivals_run, List.countP_append] at exportedAfter totalAfter deliveriesAfter
  refine ⟨?_, ?_, ?_⟩
  · rw [exportedAfter, totalAfter]
    rfl
  · rw [totalAfter, total, Nat.add_assoc]
  · rw [deliveriesAfter, deliveries, Nat.add_assoc]

/-- However the steps of requests overlap, they are counted exactly at the four paths that count,
    in both cells of the counter as long as these have room, and a scrape shows this count.  A relay
    that takes mails has got one for each request that sends one, and a relay that refuses them
    none. -/
theorem requestCount_run {state : State} {env : Settings.Variables} (made : state.IsMadeBy env)
    {before : Traffic} (reached : before.IsReached state) (idle : before.IsSettled)
    {events : List Event} (settled : (before.run state events).IsSettled) :
    (before.run state events).tally.requests.total =
      before.tally.requests.total + (arrivals events).countP (·.isDesignated) ∧
    ((before.run state events).tally.requests.total < 2 ^ 64 →
      let cells := (before.run state events).tally.requests.cells
      cells.exported.toNat = (before.run state events).tally.requests.total ∧
        cells.total.toNat = (before.run state events).tally.requests.total) ∧
    (∀ around request, state.isScrape request = true → request.method = "GET" →
      ∃ response : Http.Response,
        serve state state.metricsEntry (before.run state events).tally around request =
          (.ofResponse response, (before.run state events).tally) ∧
        response.status = 200 ∧
        Metrics.shown? Metrics.requestCount response.body =
          some (before.run state events).tally.requests.total) ∧
    ((∀ arrival ∈ arrivals events, state.takesMail arrival.visit.around = true) →
      (before.run state events).tally.deliveries =
        before.tally.deliveries + (arrivals events).countP (·.sendsMail)) ∧
    ((∀ arrival ∈ arrivals events, state.takesMail arrival.visit.around = false) →
      (before.run state events).tally.deliveries = before.tally.deliveries) ∧
    ∀ entry visits, (App.run state entry before.tally visits).2.requests.total =
      before.tally.requests.total +
        visits.countP fun visit => Arrival.isDesignated ⟨entry, visit⟩ := by
  have coherent := made.coherent
  obtain ⟨same, total, deliveries⟩ := reached.tally_run coherent idle settled
  refine ⟨total, fun room => Metrics.Counter.toNat_cells room same rfl, ?_, ?_, ?_, ?_⟩
  · intro around request scrapes reads
    refine ⟨metricsResponse (before.run state events).tally.requests,
      serve_scrape scrapes reads _ _, rfl, ?_⟩
    rw [← same]
    exact Metrics.shown?_render _
  · intro takes
    rw [deliveries]
    refine congrArg _ (List.countP_congr fun arrival member => ?_)
    rw [Arrival.delivers, takes arrival member, Bool.and_true]
  · intro refuses
    have none : (arrivals events).countP (·.delivers state) = 0 := by
      rw [List.countP_eq_zero]
      intro arrival member
      rw [Arrival.delivers, refuses arrival member, Bool.and_false]
      exact Bool.false_ne_true
    rw [deliveries, none, Nat.add_zero]
  · intro entry visits
    obtain ⟨counted, answered⟩ := run_serially state before entry visits
    rw [← counted, (reached.tally_run coherent idle (answered idle)).2.1, arrivals_serially,
      List.countP_map]
    rfl

/-- A request to be greeted, a scrape and a mail, of which none waits for another. -/
def overlapping : List Event :=
  [("GET", "/"), ("GET", "/login/a/b"), ("POST", "/send_mail")].map (fun (method, path) =>
    .arrive ⟨.main, .silent, ⟨method, ⟨none, none, path, none⟩, []⟩⟩) ++
  [0, 2, 1, 2, 0, 0, 2].map .advance

/-- Two of three overlapping requests are counted, in both cells. -/
theorem requestCount_run_overlapping :
    ∃ state : State, state.IsMadeBy sharedVariables ∧
      ((start .zero).run state overlapping).IsSettled ∧
      ((start .zero).run state overlapping).tally.requests.total = 2 ∧
      ((start .zero).run state overlapping).tally.requests.cells.exported.toNat = 2 ∧
      ((start .zero).run state overlapping).tally.requests.cells.total.toNat = 2 := by
  obtain ⟨state, made, answered⟩ := exists_isMadeBy_of_shown sharedVariables
    (fun state => ((start .zero).run state overlapping).requests.all (·.stage.isAnswered)) true
    (by decide +kernel)
  have settled := List.all_eq_true.mp answered
  have idle : (start .zero).IsSettled := by
    intro pending member
    cases member
  have reached : (start .zero).IsReached state := ⟨[], rfl⟩
  obtain ⟨counted, held, -⟩ := requestCount_run made reached idle settled
  have designated : (arrivals overlapping).countP (·.isDesignated) = 2 := by decide
  have two : ((start .zero).run state overlapping).tally.requests.total = 2 := by
    rw [counted, designated]
    rfl
  rw [two] at held
  exact ⟨state, made, settled, two, held (by decide)⟩

end Traffic

end Gatehouse.App
