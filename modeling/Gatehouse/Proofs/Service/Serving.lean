import Gatehouse.Service.Serving
import Mathlib.Data.List.Induction

/-!
# How serving ends

Serving ends well only after shutdown was requested and with nothing in flight, with the
error of its server only if that failed, and for want of time only if a request is still in
flight when its time is over.  This holds in whatever order the server, the request, the
time and the one that looks at them get their turns.
-/

namespace Gatehouse.Service

/-- The wait is over only if shutdown is requested. -/
theorem Wait.requested_of_step? {channel : Channel} {wait : Wait}
    (last : wait.step? channel = some .over) : channel.requested = true := by
  -- A wait that is over takes no step.
  rcases wait with seen | version | _
  · rw [Wait.step?, Option.some.injEq] at last
    split at last
    · next raised => rw [Channel.requested, raised, Bool.true_or]
    · cases last
  · rw [Wait.step?] at last
    split at last
    · cases last
    · split at last
      · next closed => rw [Channel.requested, closed, Bool.or_true]
      · cases last
  · cases last

namespace Serving

/-- What one event does while serving. -/
inductive Steps (channel : Channel) (serving : Serving) : ServeEvent → Serving → Prop
  | stays (event : ServeEvent) : Steps channel serving event serving
  | accepts (unreported : serving.result? = none) (lasts : serving.ended? channel = none)
      (unasked : channel.requested = false) :
      Steps channel serving (.server .accepted) { serving with inFlight := serving.inFlight + 1 }
  | finishes (unreported : serving.result? = none) (lasts : serving.ended? channel = none) :
      Steps channel serving (.server .finished) { serving with inFlight := serving.inFlight - 1 }
  | fails (unreported : serving.result? = none) (lasts : serving.ended? channel = none)
      (reason : String) :
      Steps channel serving (.server (.failed reason)) { serving with failure := some reason }
  | expires (expired : Bool) (draining : serving.stage = .draining expired) :
      Steps channel serving (.server .expired) { serving with stage := .draining true }
  | joins (unreported : serving.result? = none) (result : Except StartupError Unit)
      (ended : serving.ended? channel = some result) :
      Steps channel serving .join { serving with stage := .reported result }
  | waits (wait next : Wait) (waiting : serving.stage = .serving wait) :
      Steps channel serving .wait { serving with stage := .serving next }
  | notices (wait : Wait) (waiting : serving.stage = .serving wait)
      (asked : channel.requested = true) :
      Steps channel serving .wait { serving with stage := .draining false }
  | givesUp (lasts : serving.ended? channel = none) (late : serving.stage = .draining true) :
      Steps channel serving .timeout
        { serving with
          stage := .reported (.error (.shutdownTimeout serving.name serving.graceMs)) }

theorem steps_serve {channel : Channel} {serving : Serving} (unreported : serving.result? = none)
    (lasts : serving.ended? channel = none) (event : ServerEvent) :
    serving.Steps channel (.server event) (serving.serve channel event) := by
  cases event with
  | accepted =>
    rw [serve]
    split
    · exact .stays _
    · next unasked => exact .accepts unreported lasts (Bool.eq_false_iff.mpr unasked)
  | finished => exact .finishes unreported lasts
  | failed reason => exact .fails unreported lasts reason
  | expired =>
    rw [serve]
    split
    · next expired draining => exact .expires expired draining
    · exact .stays _
    · exact .stays _

theorem steps_wait (channel : Channel) (serving : Serving) :
    serving.Steps channel .wait (serving.wait channel) := by
  rw [Serving.wait]
  split
  · next wait waiting =>
    split
    · next last => exact .notices wait waiting (Wait.requested_of_step? last)
    · next next _ _ => exact .waits wait next waiting
    · exact .stays _
  · exact .stays _
  · exact .stays _

theorem steps_giveUp {channel : Channel} {serving : Serving}
    (lasts : serving.ended? channel = none) : serving.Steps channel .timeout serving.giveUp := by
  rw [giveUp]
  split
  · next late => exact .givesUp lasts late
  · exact .stays _
  · exact .stays _
  · exact .stays _

theorem steps_happen (channel : Channel) (serving : Serving) (event : ServeEvent) :
    serving.Steps channel event (serving.happen channel event) := by
  unfold happen
  split
  · exact .stays _
  · exact steps_wait channel serving
  · next unreported ended => exact .joins unreported _ ended
  · exact .stays _
  · exact .stays _
  · next unreported lasts => exact steps_serve unreported lasts _
  · exact .stays _
  · next unreported lasts => exact steps_giveUp lasts

variable {channel : Channel} {serving : Serving} {event : ServeEvent}
  {result : Except StartupError Unit}

theorem happen_of_result? (reported : serving.result? = some result) :
    serving.happen channel event = serving := by
  unfold happen
  rw [reported]

/-- A server accepts nothing once shutdown is requested. -/
theorem happen_accepted (asked : channel.requested = true) :
    serving.happen channel (.server .accepted) = serving := by
  unfold happen
  cases serving.result? with
  | some result => rfl
  | none =>
    cases serving.ended? channel with
    | some result => rfl
    | none => exact if_pos asked

/-- A server that has not failed accepts until shutdown is requested. -/
theorem happen_accepted_of_not_requested (unreported : serving.result? = none)
    (sound : serving.failure = none) (unasked : ¬channel.requested = true) :
    serving.happen channel (.server .accepted) =
      { serving with inFlight := serving.inFlight + 1 } := by
  have lasts : serving.ended? channel = none := by
    rw [ended?, sound]
    exact if_neg fun idle => unasked idle.1
  unfold happen
  rw [unreported, lasts]
  exact if_neg unasked

/-- Serving ends when it is looked whether a server has ended that has. -/
theorem isSome_result?_join (ended : serving.ended? channel = some result) :
    ((serving.happen channel .join).result?).isSome := by
  cases reported : serving.result? with
  | some earlier =>
    rw [happen_of_result? reported, reported]
    rfl
  | none =>
    unfold happen
    rw [reported, ended]
    rfl

theorem ended?_of_failure {reason : String} (failed : serving.failure = some reason) :
    serving.ended? channel = some (.error (.serve serving.name reason)) := by
  rw [ended?, failed]

/-- A server has ended for a cause. -/
theorem cause_of_ended? (ended : serving.ended? channel = some result) :
    (∃ reason, serving.failure = some reason ∧ result = .error (.serve serving.name reason)) ∨
      channel.requested = true ∧ serving.inFlight = 0 ∧ result = .ok () := by
  unfold ended? at ended
  split at ended
  · next reason failed =>
    cases ended
    exact .inl ⟨reason, failed, rfl⟩
  · split at ended
    · next idle =>
      cases ended
      exact .inr ⟨idle.1, idle.2, rfl⟩
    · cases ended

/-- A server that has ended has ended in the same way once shutdown is requested. -/
theorem ended?_of_requested {later : Channel} (asked : later.requested = true)
    (ended : serving.ended? channel = some result) : serving.ended? later = some result := by
  rcases cause_of_ended? ended with ⟨reason, failed, rfl⟩ | ⟨_, idle, rfl⟩
  · exact ended?_of_failure failed
  · cases failure : serving.failure with
    | some reason =>
      rw [ended?_of_failure failure] at ended
      cases ended
    | none =>
      rw [ended?, failure]
      exact if_pos ⟨asked, idle⟩

/-- A server that goes on after the request has something to finish. -/
theorem inFlight_pos_of_ended? (lasts : serving.ended? channel = none)
    (asked : channel.requested = true) : 0 < serving.inFlight := by
  unfold ended? at lasts
  split at lasts
  · cases lasts
  · split at lasts
    · cases lasts
    · next busy => exact Nat.pos_of_ne_zero fun idle => busy ⟨asked, idle⟩

end Serving

namespace Served

/-- Whether shutdown is requested: the trigger is used, or let go of. -/
def IsAsked (events : List ServedEvent) : Prop :=
  .trigger ∈ events ∨ .close ∈ events

variable {name : String} {graceMs : Nat} {events : List ServedEvent} {event : ServedEvent}
  {served : Served} {result : Except StartupError Unit}

theorem run_concat (served : Served) (events : List ServedEvent) (event : ServedEvent) :
    served.run (events ++ [event]) = (served.run events).happen event := by
  rw [run, List.foldl_append]
  rfl

theorem isAsked_concat :
    IsAsked (events ++ [event]) ↔ IsAsked events ∨ event = .trigger ∨ event = .close := by
  simp only [IsAsked, List.mem_append, List.mem_singleton, eq_comm (a := event),
    or_or_or_comm]

theorem IsAsked.append (asked : IsAsked events) (later : List ServedEvent) :
    IsAsked (events ++ later) :=
  asked.imp (List.mem_append_left _) (List.mem_append_left _)

theorem IsAsked.concat (asked : IsAsked events) (event : ServedEvent) :
    IsAsked (events ++ [event]) :=
  isAsked_concat.mpr (.inl asked)

/-- How serving may end after events. -/
inductive Ends (name : String) (graceMs : Nat) (events : List ServedEvent) :
    Except StartupError Unit → Prop
  /-- It was asked to, and has nothing in flight. -/
  | stopped (asked : IsAsked events)
      (idle : ((start name graceMs).run events).serving.inFlight = 0) :
      Ends name graceMs events (.ok ())
  | failed (reason : String) (happened : .serve (.server (.failed reason)) ∈ events) :
      Ends name graceMs events (.error (.serve name reason))
  /-- It was asked to, and after that its time was over with something still in flight. -/
  | late (before between later : List ServedEvent)
      (split : events =
        before ++ .serve (.server .expired) :: between ++ .serve .timeout :: later)
      (asked : IsAsked before)
      (busy : 0 < ((start name graceMs).run
        (before ++ .serve (.server .expired) :: between)).serving.inFlight) :
      Ends name graceMs events (.error (.shutdownTimeout name graceMs))

/-- What is true of serving after events. -/
structure Follows (name : String) (graceMs : Nat) (events : List ServedEvent) (served : Served) :
    Prop where
  name_eq : served.serving.name = name
  graceMs_eq : served.serving.graceMs = graceMs
  asked : served.channel.requested = true ↔ IsAsked events
  expired : served.serving.stage = .draining true →
    ∃ before later, events = before ++ .serve (.server .expired) :: later ∧ IsAsked before
  draining : ∀ expired, served.serving.stage = .draining expired → IsAsked events
  failed : ∀ reason, served.serving.failure = some reason →
    .serve (.server (.failed reason)) ∈ events
  reported : ∀ result, served.serving.result? = some result →
    result = .error (.shutdownTimeout name graceMs) ∨
      served.serving.ended? served.channel = some result

theorem follows_start (name : String) (graceMs : Nat) :
    Follows name graceMs [] (start name graceMs) where
  name_eq := rfl
  graceMs_eq := rfl
  asked := by simp [start, Channel.start, Channel.requested, IsAsked]
  expired late := by cases late
  draining _ late := by cases late
  failed _ failed := by cases failed
  reported _ reported := by cases reported

namespace Follows

theorem weaken (follows : Follows name graceMs events served) (event : ServeEvent) :
    Follows name graceMs (events ++ [.serve event]) served where
  name_eq := follows.name_eq
  graceMs_eq := follows.graceMs_eq
  asked := by simp [isAsked_concat, follows.asked]
  expired late := by
    obtain ⟨before, later, rfl, asked⟩ := follows.expired late
    exact ⟨before, later ++ [.serve event], by rw [List.append_assoc]; rfl, asked⟩
  draining expired draining := (follows.draining expired draining).concat _
  failed reason failed := List.mem_append_left _ (follows.failed reason failed)
  reported := follows.reported

/-- The request to shut down changes nothing else. -/
theorem ask (follows : Follows name graceMs events served)
    (event : ServedEvent) (asking : event = .trigger ∨ event = .close) :
    Follows name graceMs (events ++ [event]) (served.happen event) := by
  have asked : IsAsked (events ++ [event]) := isAsked_concat.mpr (.inr asking)
  have same : (served.happen event).serving = served.serving := by
    rcases asking with rfl | rfl
    · rw [happen]
      split <;> rfl
    · rfl
  have requested : (served.happen event).channel.requested = true := by
    rcases asking with rfl | rfl
    · rw [happen]
      split
      · next closed => rw [Channel.requested, closed, Bool.or_true]
      · rfl
    · exact Bool.or_true _
  refine ⟨?_, ?_, iff_of_true requested asked, ?_, fun _ _ => asked, ?_, fun result => ?_⟩
  · rw [same, follows.name_eq]
  · rw [same, follows.graceMs_eq]
  · intro late
    obtain ⟨before, later, rfl, earlier⟩ := follows.expired (same ▸ late)
    exact ⟨before, later ++ [event], by rw [List.append_assoc]; rfl, earlier⟩
  · intro reason failed
    exact List.mem_append_left _ (follows.failed reason (same ▸ failed))
  · rw [same]
    intro reported
    exact (follows.reported result reported).imp_right (Serving.ended?_of_requested requested)

protected theorem serve (follows : Follows name graceMs events served) {event : ServeEvent}
    {next : Serving} (steps : served.serving.Steps served.channel event next) :
    Follows name graceMs (events ++ [.serve event]) ⟨served.channel, next⟩ := by
  have kept := follows.weaken event
  obtain ⟨name_eq, graceMs_eq, asked, expired, draining, failed, reported⟩ := kept
  cases steps with
  | stays => exact ⟨name_eq, graceMs_eq, asked, expired, draining, failed, reported⟩
  | accepts unreported | finishes unreported =>
    refine ⟨name_eq, graceMs_eq, asked, expired, draining, failed, fun _ reported => ?_⟩
    cases unreported.symm.trans reported
  | fails unreported _ reason =>
    refine ⟨name_eq, graceMs_eq, asked, expired, draining, ?_, fun _ reported => ?_⟩
    · rintro _ ⟨⟩
      exact List.mem_append_right _ (List.mem_singleton_self _)
    · cases unreported.symm.trans reported
  | expires _ before =>
    have earlier := follows.draining _ before
    refine ⟨name_eq, graceMs_eq, asked, fun _ => ⟨events, [], rfl, earlier⟩,
      fun _ _ => earlier.concat _, failed, ?_⟩
    rintro _ ⟨⟩
  | joins _ result ended =>
    refine ⟨name_eq, graceMs_eq, asked, ?_, ?_, failed, ?_⟩
    · rintro ⟨⟩
    · rintro _ ⟨⟩
    · rintro _ ⟨⟩
      exact .inr ended
  | waits =>
    refine ⟨name_eq, graceMs_eq, asked, ?_, ?_, failed, ?_⟩
    · rintro ⟨⟩
    · rintro _ ⟨⟩
    · rintro _ ⟨⟩
  | notices _ _ requested =>
    refine ⟨name_eq, graceMs_eq, asked, ?_, fun _ _ => asked.mp requested, failed, ?_⟩
    · rintro ⟨⟩
    · rintro _ ⟨⟩
  | givesUp =>
    refine ⟨name_eq, graceMs_eq, asked, ?_, ?_, failed, ?_⟩
    · rintro ⟨⟩
    · rintro _ ⟨⟩
    · rintro _ ⟨⟩
      exact .inl (by rw [name_eq, graceMs_eq])

end Follows

theorem follows_run (name : String) (graceMs : Nat) (events : List ServedEvent) :
    Follows name graceMs events ((start name graceMs).run events) := by
  induction events using List.reverseRecOn with
  | nil => exact follows_start name graceMs
  | append_singleton events event ih =>
    rw [run_concat]
    cases event with
    | trigger => exact ih.ask .trigger (.inl rfl)
    | close => exact ih.ask .close (.inr rfl)
    | serve event => exact ih.serve (Serving.steps_happen _ _ event)

/-- What was the cause of an end stays one, if nothing is put in flight after it. -/
theorem Ends.concat (ends : Ends name graceMs events result) (event : ServedEvent)
    (same : ((start name graceMs).run (events ++ [event])).serving.inFlight =
      ((start name graceMs).run events).serving.inFlight) :
    Ends name graceMs (events ++ [event]) result := by
  cases ends with
  | stopped asked idle => exact .stopped (asked.concat event) (same.trans idle)
  | failed reason happened => exact .failed reason (List.mem_append_left _ happened)
  | late before between later split asked busy =>
    refine .late before between (later ++ [event]) ?_ asked busy
    rw [split]
    simp only [List.append_assoc, List.cons_append]

/-- Serving does not end by itself. -/
theorem Ends.asked_or_failed (ends : Ends name graceMs events result) :
    IsAsked events ∨ ∃ reason, .serve (.server (.failed reason)) ∈ events := by
  cases ends with
  | stopped asked => exact .inl asked
  | failed reason happened => exact .inr ⟨reason, happened⟩
  | late before between later split asked =>
    rw [split, List.append_assoc]
    exact .inl (asked.append _)

/-- Serving ends only for a cause. -/
theorem ends_of_result? (reported : ((start name graceMs).run events).serving.result? =
    some result) : Ends name graceMs events result := by
  induction events using List.reverseRecOn generalizing result with
  | nil => cases reported
  | append_singleton events event ih =>
    have kept (same : ((start name graceMs).run (events ++ [event])).serving =
        ((start name graceMs).run events).serving) :
        Ends name graceMs (events ++ [event]) result :=
      (ih (same ▸ reported)).concat event (by rw [same])
    cases event with
    | trigger =>
      refine kept ?_
      rw [run_concat, happen]
      split <;> rfl
    | close => exact kept (by rw [run_concat]; rfl)
    | serve event =>
      have follows := follows_run name graceMs events
      have next : ((start name graceMs).run (events ++ [.serve event])).serving =
          ((start name graceMs).run events).serving.happen
            ((start name graceMs).run events).channel event := by
        rw [run_concat]
        rfl
      have steps := Serving.steps_happen ((start name graceMs).run events).channel
        ((start name graceMs).run events).serving event
      rw [← next] at steps
      generalize after : ((start name graceMs).run (events ++ [.serve event])).serving = served
        at steps reported kept
      -- Serving has ended before, or does so now because its server has or because it gives up.
      cases steps with
      | stays => exact kept rfl
      | accepts unreported | finishes unreported | fails unreported =>
        cases unreported.symm.trans reported
      | expires | waits | notices => cases reported
      | joins unreported result ended =>
        cases reported
        rcases Serving.cause_of_ended? ended with ⟨reason, failed, rfl⟩ | ⟨asked, idle, rfl⟩
        · rw [follows.name_eq]
          exact .failed reason (List.mem_append_left _ (follows.failed reason failed))
        · refine .stopped ((follows.asked.mp asked).concat _) ?_
          rw [after]
          exact idle
      | givesUp lasts late =>
        cases reported
        obtain ⟨before, between, split, asked⟩ := follows.expired late
        rw [follows.name_eq, follows.graceMs_eq]
        refine .late before between [] (by rw [split, List.append_assoc]) asked ?_
        rw [← split]
        exact Serving.inFlight_pos_of_ended? lasts (follows.asked.mpr (follows.draining _ late))

/-- What serving does after events. -/
structure IsGraceful (name : String) (graceMs : Nat) (events : List ServedEvent)
    (served : Served) : Prop where
  /-- It ends only for a cause. -/
  ends : ∀ result, served.serving.result? = some result → Ends name graceMs events result
  /-- It accepts before the request, unless its server has failed. -/
  accepts : ¬IsAsked events → (∀ reason, .serve (.server (.failed reason)) ∉ events) →
    (served.happen (.serve (.server .accepted))).serving.inFlight = served.serving.inFlight + 1
  /-- It accepts nothing after the request. -/
  refuses : IsAsked events → served.happen (.serve (.server .accepted)) = served
  /-- It ends when it looks and its server has ended, be it that it has failed or that it was asked
      to and has nothing in flight. -/
  joins : (∃ reason, served.serving.failure = some reason) ∨
      IsAsked events ∧ served.serving.inFlight = 0 →
    ((served.happen (.serve .join)).serving.result?).isSome = true
  /-- What it ended with, it goes on to say. -/
  stays : ∀ result, served.serving.result? = some result →
    ∀ event, (served.happen event).serving.result? = some result

theorem isGraceful (name : String) (graceMs : Nat) (events : List ServedEvent) :
    IsGraceful name graceMs events ((start name graceMs).run events) := by
  have follows := follows_run name graceMs events
  refine ⟨fun result => ends_of_result?, fun unasked sound => ?_, fun asked => ?_,
    fun ended => ?_, fun result reported event => ?_⟩
  · have failure : ((start name graceMs).run events).serving.failure = none := by
      rw [Option.eq_none_iff_forall_ne_some]
      exact fun reason failed => sound reason (follows.failed reason failed)
    have unreported : ((start name graceMs).run events).serving.result? = none := by
      rw [Option.eq_none_iff_forall_ne_some]
      exact fun result reported => (ends_of_result? reported).asked_or_failed.elim unasked
        fun ⟨reason, failed⟩ => sound reason failed
    rw [happen, Serving.happen_accepted_of_not_requested unreported failure]
    exact mt follows.asked.mp unasked
  · rw [happen, Serving.happen_accepted (follows.asked.mpr asked)]
  · rw [happen]
    rcases ended with ⟨reason, failed⟩ | ⟨asked, idle⟩
    · exact Serving.isSome_result?_join (Serving.ended?_of_failure failed)
    · cases failure : ((start name graceMs).run events).serving.failure with
      | some reason => exact Serving.isSome_result?_join (Serving.ended?_of_failure failure)
      | none =>
        have ended : Serving.ended? ((start name graceMs).run events).channel
            ((start name graceMs).run events).serving = some (.ok ()) := by
          rw [Serving.ended?, failure]
          exact if_pos ⟨follows.asked.mpr asked, idle⟩
        exact Serving.isSome_result?_join ended
  · cases event with
    | trigger =>
      rw [happen]
      split <;> exact reported
    | close => exact reported
    | serve event =>
      rw [happen, Serving.happen_of_result? reported]
      exact reported

/-- A request that is finished just after the time is over still makes for a good end. -/
example : ((start "http" 100).run
    [.serve (.server .accepted), .trigger, .serve .wait, .serve (.server .expired),
      .serve (.server .finished), .serve .timeout, .serve .join]).serving.result? =
    some (.ok ()) := rfl

end Served

end Gatehouse.Service
