import Gatehouse.Proofs.Service.Serving

/-!
# No request to shut down is lost, and none is invented

The trigger may be used between the look of a wait at the flag and its waiting for a new version.
The wait is woken up all the same: it has seen the version of a flag that was down, which is the
first one, and every use of the trigger leads beyond it.
-/

namespace Gatehouse.Service

/-- Shutdown is requested by using the trigger or by letting go of it. -/
def AreRequesting (events : List WaitEvent) : Prop :=
  .trigger ∈ events ∨ .close ∈ events

theorem areRequesting_concat {events : List WaitEvent} {event : WaitEvent} :
    AreRequesting (events ++ [event]) ↔
      AreRequesting events ∨ event = .trigger ∨ event = .close := by
  simp only [AreRequesting, List.mem_append, List.mem_singleton, eq_comm (b := event)]
  tauto

theorem AreRequesting.append {events : List WaitEvent} (requesting : AreRequesting events)
    (more : List WaitEvent) : AreRequesting (events ++ more) :=
  requesting.imp (List.mem_append_left more) (List.mem_append_left more)

namespace Channel

@[simp] theorem requested_start : start.requested = false := rfl

@[simp] theorem requested_trigger (channel : Channel) : channel.trigger.requested = true := rfl

@[simp] theorem requested_close (channel : Channel) : channel.close.requested = true :=
  Bool.or_true _

/-- The version has left its start exactly if the flag is up. -/
def IsVersioned (channel : Channel) : Prop :=
  0 < channel.version ↔ channel.raised = true

end Channel

namespace Wait

variable {channel : Channel} {wait next : Wait}

/-- What can be said of a wait at any time: it waits for more than the first version, and it is
    over only because shutdown is requested. -/
def IsSound (channel : Channel) : Wait → Prop
  | .looking _ => True
  | .waiting version => version = 0
  | .over => channel.requested = true

theorem IsSound.of_requested {channel' : Channel} (sound : wait.IsSound channel)
    (later : channel.requested = true → channel'.requested = true) : wait.IsSound channel' := by
  cases wait with
  | looking seen => trivial
  | waiting version => exact sound
  | «over» => exact later sound

theorem isSound_of_step? (versioned : channel.IsVersioned) (step : wait.step? channel = some next) :
    next.IsSound channel := by
  rcases next with seen | version | _
  · trivial
  · rcases wait with seen | version' | _
    · rw [step?, Option.some.injEq] at step
      split at step
      · cases step
      · next down =>
        -- The flag is down, so the version that the wait keeps is the first one.
        cases step
        exact Nat.eq_zero_of_not_pos fun later => down (versioned.mp later)
    · rw [step?] at step
      split at step
      · cases step
      · split at step <;> cases step
    · cases step
  · exact requested_of_step? step

/-- How many steps a wait still takes once shutdown is requested. -/
def stepsLeft (channel : Channel) : Wait → Nat
  | .looking _ => if channel.raised then 1 else 2
  | .waiting _ => if channel.raised then 2 else 1
  | .over => 0

theorem stepsLeft_le_two (channel : Channel) (wait : Wait) : wait.stepsLeft channel ≤ 2 := by
  cases wait with
  | looking seen => rw [stepsLeft]; split <;> omega
  | waiting version => rw [stepsLeft]; split <;> omega
  | «over» => exact Nat.zero_le 2

theorem eq_over_of_stepsLeft (none : wait.stepsLeft channel = 0) : wait = .over := by
  cases wait with
  | looking seen => rw [stepsLeft] at none; split at none <;> cases none
  | waiting version => rw [stepsLeft] at none; split at none <;> cases none
  | «over» => rfl

/-- Once shutdown is requested a wait goes on until it is over, and every step leads further. -/
theorem exists_step?_of_requested (versioned : channel.IsVersioned) (sound : wait.IsSound channel)
    (requested : channel.requested = true) (lasts : wait ≠ .over) :
    ∃ next, wait.step? channel = some next ∧
      next.stepsLeft channel = wait.stepsLeft channel - 1 := by
  rw [Channel.requested, Bool.or_eq_true] at requested
  cases wait with
  | looking seen =>
    refine ⟨_, rfl, ?_⟩
    by_cases raised : channel.raised = true
    · simp [stepsLeft, raised]
    · simp [stepsLeft, raised]
  | waiting version =>
    obtain rfl : version = 0 := sound
    by_cases raised : channel.raised = true
    · refine ⟨.looking channel.version, ?_, by simp [stepsLeft, raised]⟩
      rw [step?, if_pos (versioned.mpr raised)]
    · refine ⟨.over, ?_, by simp [stepsLeft, raised]⟩
      rw [step?, if_neg fun later => raised (versioned.mp later),
        if_pos (requested.resolve_left raised)]
  | «over» => exact absurd rfl lasts

end Wait

namespace Waits

variable {state : Waits} {events more : List WaitEvent} {event : WaitEvent} {on : Nat} {wait : Wait}

/-- What holds of the waits of a channel after events. -/
structure IsSound (state : Waits) (events : List WaitEvent) : Prop where
  requested : state.channel.requested = true ↔ AreRequesting events
  versioned : state.channel.IsVersioned
  waits : ∀ wait ∈ state.waits, wait.IsSound state.channel

theorem isSound_start : start.IsSound [] where
  requested := by simp [start, AreRequesting]
  versioned := ⟨fun later => absurd later (by decide), fun raised => absurd raised (by decide)⟩
  waits wait member := by
    rw [List.mem_singleton.mp member]
    trivial

/-- An event that leaves the channel alone requests nothing, and what it makes of the waits has to
    be looked at. -/
theorem IsSound.of_waits (sound : state.IsSound events) (waits : List Wait)
    (other : event ≠ .trigger ∧ event ≠ .close)
    (made : ∀ wait ∈ waits, wait ∈ state.waits ∨ wait.IsSound state.channel) :
    IsSound { state with waits := waits } (events ++ [event]) where
  requested := by
    rw [sound.requested, areRequesting_concat, or_iff_left (not_or.mpr other)]
  versioned := sound.versioned
  waits wait member := (made wait member).elim (sound.waits wait) id

/-- An event that requests a shutdown leaves the waits alone. -/
theorem IsSound.of_requested (sound : state.IsSound events) {channel : Channel}
    (requesting : event = .trigger ∨ event = .close) (requested : channel.requested = true)
    (versioned : channel.IsVersioned) :
    IsSound { state with channel := channel } (events ++ [event]) where
  requested := by
    rw [areRequesting_concat]
    exact ⟨fun _ => .inr requesting, fun _ => requested⟩
  versioned := versioned
  waits wait member := (sound.waits wait member).of_requested fun _ => requested

theorem IsSound.happen (sound : state.IsSound events) (event : WaitEvent) :
    (state.happen event).IsSound (events ++ [event]) := by
  cases event with
  | trigger =>
    rw [Waits.happen]
    split
    · next closed =>
      refine sound.of_requested (.inl rfl) ?_ sound.versioned
      rw [Channel.requested, closed, Bool.or_true]
    · exact sound.of_requested (.inl rfl) (Channel.requested_trigger _)
        ⟨fun _ => rfl, fun _ => Nat.succ_pos _⟩
  | close => exact sound.of_requested (.inr rfl) (Channel.requested_close _) sound.versioned
  | clone on =>
    rw [Waits.happen]
    split
    · refine sound.of_waits _ (by simp) fun wait member => ?_
      rcases List.mem_append.mp member with old | new
      · exact .inl old
      · rw [List.mem_singleton.mp new]
        exact .inr trivial
    · exact sound.of_waits _ (by simp) fun _ => .inl
  | step on =>
    rw [Waits.happen]
    split
    · next next found =>
      obtain ⟨wait, -, step⟩ := Option.bind_eq_some_iff.mp found
      refine sound.of_waits _ (by simp) fun other member => ?_
      rcases List.mem_or_eq_of_mem_set member with old | rfl
      · exact .inl old
      · exact .inr (Wait.isSound_of_step? sound.versioned step)
    · exact sound.of_waits _ (by simp) fun _ => .inl

theorem run_concat (state : Waits) (events : List WaitEvent) (event : WaitEvent) :
    state.run (events ++ [event]) = (state.run events).happen event :=
  List.foldl_append

theorem isSound_run_start (events : List WaitEvent) : (start.run events).IsSound events := by
  induction events using List.reverseRecOn with
  | nil => exact isSound_start
  | append_singleton events event ih =>
    rw [run_concat]
    exact ih.happen event

/-- A request stays, and so does the flag whatever else happens. -/
theorem raised_happen (requested : state.channel.requested = true) (event : WaitEvent) :
    (state.happen event).channel.raised = state.channel.raised := by
  cases event with
  | trigger =>
    rw [happen]
    split
    · rfl
    · next alive =>
      rw [Channel.requested, Bool.eq_false_iff.mpr alive, Bool.or_false] at requested
      exact requested.symm
  | close => rfl
  | clone on => rw [happen]; split <;> rfl
  | step on => rw [happen]; split <;> rfl

theorem stepsLeft_happen (requested : state.channel.requested = true) (event : WaitEvent)
    (wait : Wait) :
    wait.stepsLeft (state.happen event).channel = wait.stepsLeft state.channel := by
  cases wait <;> simp only [Wait.stepsLeft, raised_happen requested event]

/-- The events of other waits do not set a wait back, and its own steps lead it on. -/
theorem exists_wait_happen (sound : state.IsSound events)
    (requested : state.channel.requested = true) (there : state.waits[on]? = some wait)
    (event : WaitEvent) :
    ∃ next, (state.happen event).waits[on]? = some next ∧
      next.stepsLeft (state.happen event).channel =
        wait.stepsLeft state.channel - [event].count (.step on) := by
  simp only [stepsLeft_happen requested]
  cases event with
  | trigger => exact ⟨wait, by rw [happen]; split <;> exact there, by simp⟩
  | close => exact ⟨wait, there, by simp⟩
  | clone other =>
    refine ⟨wait, ?_, by simp⟩
    rw [happen]
    split
    · exact List.getElem?_append_left (List.getElem?_eq_some_iff.mp there).1 ▸ there
    · exact there
  | step other =>
    by_cases same : other = on
    · subst other
      by_cases last : wait = .over
      · subst last
        refine ⟨.over, ?_, by simp [Wait.stepsLeft]⟩
        rw [happen, there]
        exact there
      · obtain ⟨next, step, fewer⟩ := Wait.exists_step?_of_requested sound.versioned
          (sound.waits wait (List.mem_of_getElem? there)) requested last
        refine ⟨next, ?_, by simpa using fewer⟩
        rw [happen, there, Option.bind_some, step]
        exact List.getElem?_set_self (List.getElem?_eq_some_iff.mp there).1
    · refine ⟨wait, ?_, by simp [same]⟩
      rw [happen]
      split
      · rw [List.getElem?_set_ne same]
        exact there
      · exact there

/-- Once shutdown is requested a wait has no more steps to take than it had then, less those that
    it has taken since. -/
theorem exists_wait_run (requesting : AreRequesting events)
    (there : (start.run events).waits[on]? = some wait) (more : List WaitEvent) :
    ∃ last, (start.run (events ++ more)).waits[on]? = some last ∧
      last.stepsLeft (start.run (events ++ more)).channel =
        wait.stepsLeft (start.run events).channel - more.count (.step on) := by
  induction more using List.reverseRecOn with
  | nil =>
    rw [List.append_nil]
    exact ⟨wait, there, rfl⟩
  | append_singleton more event ih =>
    obtain ⟨last, there, left⟩ := ih
    have sound := isSound_run_start (events ++ more)
    have requested := sound.requested.mpr (requesting.append more)
    obtain ⟨next, there, fewer⟩ := exists_wait_happen sound requested there event
    refine ⟨next, ?_, ?_⟩
    · rw [← List.append_assoc, run_concat]
      exact there
    · rw [← List.append_assoc, run_concat, fewer, left, List.count_append, Nat.sub_sub]

/-- A wait that cannot go on is one that nobody has asked to. -/
theorem IsSound.isBlocked_eq_false (sound : state.IsSound events)
    (requested : state.channel.requested = true) (on : Nat) : state.isBlocked on = false := by
  unfold isBlocked
  split
  · rfl
  · next wait lasts there =>
    obtain ⟨next, step, -⟩ := Wait.exists_step?_of_requested sound.versioned
      (sound.waits wait (List.mem_of_getElem? there)) requested fun last => lasts last
    rw [step]
    rfl
  · rfl

/-- No request to shut down is lost and none is invented, in whatever order the trigger is used,
    once or again, or let go of, waits are cloned, and waits take their steps.  A wait is over only
    if shutdown was requested; once it was, no wait is blocked, and each is over by its second step
    from then on at the latest. -/
theorem no_request_lost_or_invented (events : List WaitEvent) :
    (∀ on : Nat, (start.run events).waits[on]? = some .over → AreRequesting events) ∧
    (AreRequesting events → ∀ on, (start.run events).isBlocked on = false) ∧
    (AreRequesting events → ∀ on < (start.run events).waits.length, ∀ more,
      2 ≤ more.count (.step on) → (start.run (events ++ more)).waits[on]? = some .over) := by
  have sound := isSound_run_start events
  refine ⟨fun on last => ?_, fun requesting on => ?_, fun requesting on bound more steps => ?_⟩
  · exact sound.requested.mp (sound.waits .over (List.mem_of_getElem? last))
  · exact sound.isBlocked_eq_false (sound.requested.mpr requesting) on
  · have there := List.getElem?_eq_getElem bound
    obtain ⟨last, there, left⟩ := exists_wait_run requesting there more
    have atMost := Wait.stepsLeft_le_two (start.run events).channel (start.run events).waits[on]
    have none : last.stepsLeft (start.run (events ++ more)).channel = 0 := by omega
    rw [there, Wait.eq_over_of_stepsLeft none]

/-- The trigger is used between the look of a wait at the flag and its waiting for a new version;
    a clone that comes later sees the flag up. -/
example : start.run [.step 0, .trigger, .clone 0, .step 1, .step 0, .step 0] =
    ⟨⟨true, 1, false⟩, [.over, .over]⟩ := by
  decide

end Waits

end Gatehouse.Service
