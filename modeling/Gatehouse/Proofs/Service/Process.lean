import Gatehouse.Proofs.Service.Running
import Gatehouse.Service.Launch

/-!
# Servers and the process from the outside

Who looks when, while serving, does not show from the outside: a server takes requests,
is told to stop and ends, and so does the process.
-/

namespace Gatehouse.Service

/-- What a server that has ended does. -/
def Phase.ofResult : Except StartupError Unit → Phase
  | .ok () => .stopped
  | .error error => .failed error

namespace Serving

/-- What the server is doing, from the outside. -/
def phase (channel : Channel) (serving : Serving) : Phase :=
  match serving.result?.or (serving.ended? channel) with
  | some result => .ofResult result
  | none => if channel.requested then .draining else .running

/-- The server, from the outside. -/
def server (channel : Channel) (serving : Serving) : Server :=
  ⟨serving.name, serving.graceMs, serving.inFlight, serving.phase channel⟩

variable {channel : Channel} {serving next : Serving} {event : ServeEvent}
  {result : Except StartupError Unit}

theorem phase_of_result? (reported : serving.result? = some result) :
    serving.phase channel = .ofResult result := by
  rw [phase, reported]
  rfl

theorem phase_of_ended? (unreported : serving.result? = none)
    (ended : serving.ended? channel = some result) :
    serving.phase channel = .ofResult result := by
  rw [phase, unreported, ended]
  rfl

theorem phase_of_lasts (unreported : serving.result? = none)
    (lasts : serving.ended? channel = none) :
    serving.phase channel = if channel.requested then .draining else .running := by
  rw [phase, unreported, lasts]
  rfl

theorem failure_of_lasts (lasts : serving.ended? channel = none) : serving.failure = none := by
  cases failure : serving.failure with
  | none => rfl
  | some reason =>
    rw [ended?_of_failure failure] at lasts
    cases lasts

theorem result?_server (reported : serving.result? = some result) :
    (serving.server channel).result? = some result := by
  rw [Server.result?, server, phase_of_result? reported]
  cases result <;> rfl

theorem server_of_failure {reason : String} (failed : serving.failure = some reason)
    (only : ∀ result, serving.result? = some result →
      result = .error (.serve serving.name reason)) :
    serving.server channel =
      ⟨serving.name, serving.graceMs, serving.inFlight, .failed (.serve serving.name reason)⟩ := by
  cases reported : serving.result? with
  | none =>
    rw [server, phase_of_ended? reported (ended?_of_failure failed)]
    rfl
  | some result =>
    rw [server, phase_of_result? reported, only result reported]
    rfl

theorem server_accepts (unreported : serving.result? = none)
    (lasts : serving.ended? channel = none) (unasked : channel.requested = false) :
    server channel { serving with inFlight := serving.inFlight + 1 } =
      (serving.server channel).happen .accepted := by
  have running := phase_of_lasts unreported lasts
  have still : result? { serving with inFlight := serving.inFlight + 1 } = none := unreported
  have next : phase channel { serving with inFlight := serving.inFlight + 1 } = .running := by
    rw [phase_of_lasts still, unasked]
    · rfl
    · rw [ended?]
      simp [failure_of_lasts lasts, unasked]
  rw [unasked] at running
  rw [server, server, next, running]
  rfl

theorem server_finishes (unreported : serving.result? = none)
    (lasts : serving.ended? channel = none) :
    server channel { serving with inFlight := serving.inFlight - 1 } =
      (serving.server channel).happen .finished := by
  have before := phase_of_lasts unreported lasts
  have still : result? { serving with inFlight := serving.inFlight - 1 } = none := unreported
  have ended : ended? channel { serving with inFlight := serving.inFlight - 1 } =
      if channel.requested ∧ serving.inFlight - 1 = 0 then some (.ok ()) else none := by
    rw [ended?]
    simp only [failure_of_lasts lasts]
  have next : phase channel { serving with inFlight := serving.inFlight - 1 } =
      if channel.requested = true ∧ serving.inFlight - 1 = 0 then .stopped
      else if channel.requested then .draining else .running := by
    by_cases idle : channel.requested = true ∧ serving.inFlight - 1 = 0
    · rw [if_pos idle] at ended ⊢
      exact phase_of_ended? still ended
    · rw [if_neg idle] at ended ⊢
      exact phase_of_lasts still ended
  rw [server, server, next, before]
  cases channel.requested <;> simp [Server.happen, Server.finishOne]

theorem server_fails (unreported : serving.result? = none)
    (lasts : serving.ended? channel = none) (reason : String) :
    server channel { serving with failure := some reason } =
      (serving.server channel).happen (.failed reason) := by
  have before := phase_of_lasts unreported lasts
  have still : result? { serving with failure := some reason } = none := unreported
  have next : phase channel { serving with failure := some reason } =
      .failed (.serve serving.name reason) :=
    phase_of_ended? still (ended?_of_failure rfl)
  rw [server, server, next, before]
  cases channel.requested <;> rfl

theorem server_givesUp (lasts : serving.ended? channel = none)
    (late : serving.stage = .draining true) (asked : channel.requested = true) :
    server channel
        { serving with
          stage := .reported (.error (.shutdownTimeout serving.name serving.graceMs)) } =
      (serving.server channel).happen .expired := by
  have unreported : serving.result? = none := by rw [result?, late]
  have before := phase_of_lasts unreported lasts
  rw [asked] at before
  rw [server, server, before]
  rfl

/-- What only those who look notice leaves the server as it is. -/
theorem server_stage {stage : ServeStage} (unreported : serving.result? = none)
    (still : result? { serving with stage := stage } = none) :
    server channel { serving with stage := stage } = serving.server channel := by
  rw [server, server, phase, phase, unreported, still]
  rfl

/-- What happens while serving is, from the outside, something that happens to the server, or
    nothing. -/
theorem Steps.server_eq (steps : serving.Steps channel event next)
    (asked : ∀ expired, serving.stage = .draining expired → channel.requested = true) :
    ∃ events : List ServerEvent,
      next.server channel = events.foldl Server.happen (serving.server channel) := by
  cases steps with
  | stays => exact ⟨[], rfl⟩
  | accepts unreported lasts unasked =>
    exact ⟨[.accepted], server_accepts unreported lasts unasked⟩
  | finishes unreported lasts => exact ⟨[.finished], server_finishes unreported lasts⟩
  | fails unreported lasts reason => exact ⟨[.failed reason], server_fails unreported lasts reason⟩
  | expires expired draining =>
    exact ⟨[], server_stage (by rw [result?, draining]) rfl⟩
  | joins unreported result ended =>
    refine ⟨[], ?_⟩
    rw [List.foldl_nil, server, server, phase_of_ended? unreported ended]
    rfl
  | waits wait next waiting => exact ⟨[], server_stage (by rw [result?, waiting]) rfl⟩
  | notices wait waiting requested => exact ⟨[], server_stage (by rw [result?, waiting]) rfl⟩
  | givesUp lasts late => exact ⟨[.expired], server_givesUp lasts late (asked _ late)⟩

/-- The request tells the server to stop. -/
theorem server_trigger (unasked : channel.requested = false) :
    serving.server channel.trigger = (serving.server channel).stop := by
  have asked : channel.trigger.requested = true := rfl
  cases reported : serving.result? with
  | some result =>
    rw [server, server, phase_of_result? reported, phase_of_result? reported]
    rcases result with _ | ⟨⟨⟩⟩ <;> rfl
  | none =>
    cases ended : serving.ended? channel with
    | some result =>
      rw [server, server, phase_of_ended? reported ended,
        phase_of_ended? reported (ended?_of_requested asked ended)]
      rcases result with _ | ⟨⟨⟩⟩ <;> rfl
    | none =>
      have running := phase_of_lasts reported ended
      have after : serving.ended? channel.trigger =
          if serving.inFlight = 0 then some (.ok ()) else none := by
        rw [ended?, failure_of_lasts ended, asked]
        simp only [true_and]
      rw [unasked] at running
      rw [server, server, running]
      by_cases idle : serving.inFlight = 0
      · rw [if_pos idle] at after
        rw [phase_of_ended? reported after]
        simp [Server.stop, idle, Phase.ofResult]
      · rw [if_neg idle] at after
        rw [phase_of_lasts reported after, asked]
        simp [Server.stop, idle]

end Serving

/-! ## The process from the outside -/

namespace Running

/-- The process from the outside.  A main server that has failed counts as one that runs until the
    process has noticed something. -/
def process (running : Running) : Process where
  main :=
    { running.main.server running.channel with
      phase := if running.stage.isTold then running.main.phase running.channel else .running }
  metrics := running.metrics.map (·.server running.channel)
  stopping := running.stage.isTold

end Running

namespace Process

theorem run_main {process : Process} (stopping : process.stopping = true)
    (events : List ServerEvent) :
    process.run (events.map .main) =
      { process with main := events.foldl Server.happen process.main } := by
  induction events generalizing process with
  | nil => rfl
  | cons event events ih =>
    have next : process.happen (.main event) =
        { process with main := process.main.happen event } := by
      rw [happen]
      exact if_neg (by simp [stopping])
    rw [List.map_cons, run, List.foldl_cons, ← run, next, ih (by exact stopping)]
    rfl

theorem run_metrics (process : Process) (events : List ServerEvent) :
    process.run (events.map .metrics) =
      { process with metrics := process.metrics.map (events.foldl Server.happen ·) } := by
  induction events generalizing process with
  | nil =>
    change process = { process with metrics := process.metrics.map id }
    rw [Option.map_id, id]
  | cons event events ih =>
    rw [List.map_cons, run, List.foldl_cons, ← run, happen, ih, Option.map_map]
    rfl

theorem run_append (process : Process) (events later : List ProcessEvent) :
    process.run (events ++ later) = (process.run events).run later :=
  List.foldl_append

end Process

namespace Running

variable {separate : Bool} {events : List RunEvent} {running : Running}

theorem requested_of_untold (holds : Holds separate events running)
    (untold : running.stage.isTold = false) : running.channel.requested = false := by
  rw [holds.channel, untold]
  rfl

theorem process_untold (untold : running.stage.isTold = false) :
    running.process =
      ⟨⟨running.main.name, running.main.graceMs, running.main.inFlight, .running⟩,
        running.metrics.map (·.server running.channel), false⟩ := by
  rw [process, untold]
  rfl

theorem process_told (told : running.stage.isTold = true) :
    running.process =
      ⟨running.main.server running.channel, running.metrics.map (·.server running.channel),
        true⟩ := by
  rw [process, told]
  rfl

/-- Before anything is noticed, only what the main server accepts and finishes shows. -/
theorem process_serveMain_untold (event : ServeEvent) (untold : running.stage.isTold = false) :
    ∃ coarse, (running.happen (.main event)).process = running.process.run coarse := by
  have after : (running.happen (.main event)).process = _ := process_untold untold
  rw [after, process_untold untold, happen]
  have steps := Serving.steps_happen running.channel running.main event
  generalize running.main.happen running.channel event = next at steps
  cases steps with
  | accepts => exact ⟨[.main .accepted], rfl⟩
  | finishes => exact ⟨[.main .finished], rfl⟩
  | stays | fails | expires | joins | waits | notices | givesUp => exact ⟨[], rfl⟩

theorem process_serveMain_told (holds : Holds separate events running) (event : ServeEvent)
    (told : running.stage.isTold = true) :
    ∃ coarse, (running.happen (.main event)).process = running.process.run coarse := by
  have after : (running.happen (.main event)).process = _ := process_told told
  obtain ⟨acts, same⟩ := (Serving.steps_happen running.channel running.main event).server_eq
    holds.main.requested
  refine ⟨acts.map .main, ?_⟩
  rw [after, Process.run_main (by rw [process_told told]), process_told told, happen]
  dsimp only
  rw [same]

theorem process_serveMetrics (holds : Holds separate events running) (event : ServeEvent) :
    ∃ coarse, (running.happen (.metrics event)).process = running.process.run coarse := by
  cases present : running.metrics with
  | none =>
    refine ⟨[], ?_⟩
    rw [process, happen, process, present]
    rfl
  | some serving =>
    obtain ⟨acts, same⟩ := (Serving.steps_happen running.channel serving event).server_eq
      (holds.metrics serving present).requested
    refine ⟨acts.map .metrics, ?_⟩
    rw [Process.run_metrics, process, happen, process, present]
    dsimp only [Option.map_some]
    rw [same]

/-- When the process notices a signal or the report of its main server, all servers stop. -/
theorem process_tell (holds : Holds separate events running) {stage : RunStage}
    (untold : running.stage.isTold = false) (told : stage.isTold = true)
    (cause : IsSignalled events ∨ running.main.result?.isSome = true) :
    ∃ coarse,
      process { running with channel := running.channel.trigger, stage := stage } =
        running.process.run coarse := by
  have unasked := requested_of_untold holds untold
  have after :
      process { running with channel := running.channel.trigger, stage := stage } = _ :=
    process_told told
  have metrics : running.metrics.map (·.server running.channel.trigger) =
      (running.metrics.map (·.server running.channel)).map Server.stop := by
    rw [Option.map_map]
    exact Option.map_congr fun serving _ => Serving.server_trigger unasked
  rw [after, metrics, process_untold untold]
  -- A main server that has failed unnoticed does so now, from the outside, and stops the others;
  -- one that has not is stopped with them by the signal.
  cases failure : running.main.failure with
  | some reason =>
    have main : running.main.server running.channel.trigger =
        ⟨running.main.name, running.main.graceMs, running.main.inFlight,
          .failed (.serve running.main.name reason)⟩ := by
      refine Serving.server_of_failure failure fun result reported => ?_
      obtain ⟨_, same, rfl⟩ := holds.main.failed unasked reported
      cases failure.symm.trans same
      rfl
    exact ⟨[.main (.failed reason)], by rw [main]; rfl⟩
  | none =>
    have unreported : running.main.result? = none := by
      cases reported : running.main.result? with
      | none => rfl
      | some result =>
        obtain ⟨_, failed, _⟩ := holds.main.failed unasked reported
        cases failure.symm.trans failed
    have main : running.main.server running.channel =
        ⟨running.main.name, running.main.graceMs, running.main.inFlight, .running⟩ := by
      rw [Serving.server, Serving.phase_of_lasts unreported, unasked]
      · rfl
      · rw [Serving.ended?, failure]
        simp [unasked]
    obtain ⟨signal, -⟩ : IsSignalled events := by
      rw [unreported] at cause
      exact cause.resolve_right (by simp)
    refine ⟨[.signal signal], ?_⟩
    rw [Serving.server_trigger unasked, main]
    rfl

/-- A look at what the servers report shows only where it tells them to stop. -/
theorem process_look {stage : RunStage} (same : stage.isTold = running.stage.isTold) :
    process { running with stage := stage } = running.process := by
  rw [process, process, same]

theorem process_happen (holds : Holds separate events running) (event : RunEvent) :
    ∃ coarse, (running.happen event).process = running.process.run coarse := by
  cases event with
  | signal signal => exact ⟨[], rfl⟩
  | main event =>
    cases told : running.stage.isTold with
    | false => exact process_serveMain_untold event told
    | true => exact process_serveMain_told holds event told
  | metrics event => exact process_serveMetrics holds event
  | heed =>
    rw [happen, heed]
    split
    · next selecting signalled =>
      exact process_tell holds (by rw [selecting]; rfl) rfl (.inl (holds.signalled.mp signalled))
    · exact ⟨[], rfl⟩
  | join =>
    rw [happen, join]
    split
    · next selecting reported =>
      exact process_tell holds (by rw [selecting]; rfl) rfl (.inr (by rw [reported]; rfl))
    · next joining _ => exact ⟨[], process_look (by rw [joining]; rfl)⟩
    · exact ⟨[], rfl⟩
  | collect =>
    rw [happen, collect]
    split
    · next collecting _ => exact ⟨[], process_look (by rw [collecting]; rfl)⟩
    · next collecting _ =>
      split
      · exact ⟨[], process_look (by rw [collecting]; rfl)⟩
      · exact ⟨[], rfl⟩
    · exact ⟨[], rfl⟩

/-- Every run of the process is, from the outside, one in which nobody has to look. -/
theorem process_run (separate : Bool) (events : List RunEvent) :
    ∃ coarse, ((start separate).run events).process = (Process.start separate).run coarse := by
  induction events using List.reverseRecOn with
  | nil =>
    refine ⟨[], ?_⟩
    cases separate <;> rfl
  | append_singleton events event ih =>
    obtain ⟨coarse, same⟩ := ih
    obtain ⟨more, next⟩ := process_happen (holds_run separate events) event
    refine ⟨coarse ++ more, ?_⟩
    rw [run_concat, next, same, Process.run_append]

theorem result?_process (holds : Holds separate events running) {result : Except StartupError Unit}
    (stage : running.stage = .reported result) : running.process.result? = some result := by
  have told : running.stage.isTold = true := by rw [stage]; rfl
  have report := holds.reported result stage
  rw [process_told told, Process.result?]
  cases present : running.metrics with
  | none =>
    rw [present] at report
    cases report with
    | alone _ reported =>
      rw [Serving.result?_server reported]
      rfl
  | some metrics =>
    rw [present] at report
    cases report with
    | both _ main other reported otherReported =>
      rw [Option.map_some, Serving.result?_server reported]
      dsimp only
      rw [Serving.result?_server otherReported]
      cases main <;> rfl

theorem requested_iff_told (holds : Holds separate events running) :
    running.channel.requested = true ↔ running.stage.isTold = true := by
  rw [holds.channel]
  cases running.stage.isTold
  · exact iff_of_false (by decide) (by decide)
  · exact iff_of_true rfl rfl

theorem isTold_heed (signalled : running.signalled = true) :
    running.heed.stage.isTold = true := by
  unfold heed
  rw [signalled]
  cases stage : running.stage <;> simp [stage, RunStage.isTold]

theorem isTold_join (reported : running.main.result?.isSome = true) :
    running.join.stage.isTold = true := by
  obtain ⟨result, reported⟩ := Option.isSome_iff_exists.mp reported
  unfold join
  rw [reported]
  cases stage : running.stage <;> simp [stage, RunStage.isTold]

/-- A report is a success if all servers report one. -/
theorem IsReport.eq_ok_iff {main : Serving} {metrics : Option Serving}
    {result : Except StartupError Unit} (report : IsReport main metrics result) :
    result = .ok () ↔ main.result? = some (.ok ()) ∧
      ∀ serving, metrics = some serving → serving.result? = some (.ok ()) := by
  cases report with
  | alone result reported => simp [reported]
  | both metrics result other reported otherReported =>
    rcases result with error | ⟨⟨⟩⟩ <;> simp [reported, otherReported, bothReports]

/-- A report is the error of the main server, or of the other one if the main one reports a
    success. -/
theorem IsReport.eq_error_iff {main : Serving} {metrics : Option Serving}
    {result : Except StartupError Unit} {error : StartupError}
    (report : IsReport main metrics result) :
    result = .error error ↔ main.result? = some (.error error) ∨
      main.result? = some (.ok ()) ∧
        ∃ serving, metrics = some serving ∧ serving.result? = some (.error error) := by
  cases report with
  | alone result reported => simp [reported]
  | both metrics result other reported otherReported =>
    rcases result with error | ⟨⟨⟩⟩ <;> simp [reported, otherReported, bothReports]

theorem exitStatus_eq_zero_iff {result : Except StartupError Unit} :
    exitStatus result = 0 ↔ result = .ok () := by
  rcases result with error | ⟨⟨⟩⟩ <;> simp [exitStatus]

/-- Once it has looked at the report of the main server, the process is left with the other one. -/
theorem stage_join (reported : running.main.result?.isSome = true) :
    (∃ main, running.join.stage = .collecting main) ∨
      ∃ result, running.join.stage = .reported result := by
  obtain ⟨main, reported⟩ := Option.isSome_iff_exists.mp reported
  unfold join
  rw [reported]
  cases stage : running.stage with
  | selecting => exact .inl ⟨main, rfl⟩
  | joining => exact .inl ⟨main, rfl⟩
  | collecting earlier => exact .inl ⟨earlier, stage⟩
  | reported result => exact .inr ⟨result, stage⟩

theorem metrics_join (running : Running) : running.join.metrics = running.metrics := by
  unfold join
  split <;> rfl

theorem stage_collect {main : Except StartupError Unit}
    (collecting : running.stage = .collecting main)
    (reported : ∀ serving, running.metrics = some serving → serving.result?.isSome = true) :
    ∃ result, running.collect.stage = .reported result := by
  unfold collect
  rw [collecting]
  cases present : running.metrics with
  | none => exact ⟨main, rfl⟩
  | some serving =>
    obtain ⟨result, reported⟩ := Option.isSome_iff_exists.mp (reported serving present)
    dsimp only
    rw [reported]
    exact ⟨_, rfl⟩

/-- The process reports once it has looked at what its servers have reported. -/
theorem exists_over (reported : running.main.result?.isSome = true)
    (otherReported : ∀ serving, running.metrics = some serving → serving.result?.isSome = true) :
    ∃ result, running.join.collect.stage = .reported result := by
  rcases stage_join reported with ⟨main, collecting⟩ | ⟨result, stage⟩
  · exact stage_collect collecting (metrics_join running ▸ otherReported)
  · refine ⟨result, ?_⟩
    unfold collect
    rw [stage]
    exact stage

/-- What the process does after events. -/
structure IsOrderly (separate : Bool) (events : List RunEvent) (running : Running) : Prop where
  /-- Its servers are served on one channel, each with what happens to it. -/
  main : IsServed "http" (events.filterMap RunEvent.main?) running.channel running.main
  metrics : ∀ serving, running.metrics = some serving →
    IsServed "metrics" (events.filterMap RunEvent.metrics?) running.channel serving
  two : running.metrics.isSome = separate
  /-- They are told to stop only after a signal or the report of the main server. -/
  cause : running.channel.requested = true →
    IsSignalled events ∨ running.main.result?.isSome = true
  /-- They are told so as soon as it looks after either of these. -/
  heeds : IsSignalled events → (running.happen .heed).channel.requested = true
  joins : running.main.result?.isSome = true →
    (running.happen .join).channel.requested = true
  /-- Neither of them accepts anything after that. -/
  refuses : running.channel.requested = true →
    running.happen (.main (.server .accepted)) = running ∧
      running.happen (.metrics (.server .accepted)) = running
  /-- The process succeeds if all its servers do. -/
  succeeds : ∀ result, running.stage = .reported result →
    (exitStatus result = 0 ↔ running.main.result? = some (.ok ()) ∧
      ∀ serving, running.metrics = some serving → serving.result? = some (.ok ()))
  /-- It reports the error of the main server, and without one that of the other server. -/
  fails : ∀ result error, running.stage = .reported result →
    (result = .error error ↔ running.main.result? = some (.error error) ∨
      running.main.result? = some (.ok ()) ∧
        ∃ serving, running.metrics = some serving ∧ serving.result? = some (.error error))
  /-- It reports when it looks and all its servers have. -/
  returns : running.main.result?.isSome = true →
    (∀ serving, running.metrics = some serving → serving.result?.isSome = true) →
    ∃ result, ((running.happen .join).happen .collect).stage = .reported result
  /-- Serving on ports comes to the same report. -/
  serves : ∃ coarse, ∀ result, running.stage = .reported result →
    ∀ bind port metricsPort, metricsPort.isSome = separate →
      (serveOn ⟨bind, coarse⟩ port metricsPort).1 = result

theorem isOrderly (separate : Bool) (events : List RunEvent) :
    IsOrderly separate events ((start separate).run events) := by
  have holds := holds_run separate events
  obtain ⟨coarse, same⟩ := process_run separate events
  generalize (start separate).run events = running at holds same
  refine ⟨holds.main, holds.metrics, holds.separate, ?_, ?_, ?_, ?_, ?_, ?_, ?_, ?_⟩
  · intro requested
    exact holds.cause ((requested_iff_told holds).mp requested)
  · intro signalled
    exact (requested_iff_told holds.heed).mpr (isTold_heed (holds.signalled.mpr signalled))
  · intro reported
    exact (requested_iff_told holds.join).mpr (isTold_join reported)
  · intro requested
    refine ⟨?_, ?_⟩
    · rw [happen, Serving.happen_accepted requested]
    · rw [happen]
      cases present : running.metrics with
      | none => rw [Option.map_none, ← present]
      | some serving => rw [Option.map_some, Serving.happen_accepted requested, ← present]
  · intro result stage
    rw [exitStatus_eq_zero_iff]
    exact (holds.reported result stage).eq_ok_iff
  · intro result error stage
    exact (holds.reported result stage).eq_error_iff
  · intro reported otherReported
    exact exists_over reported otherReported
  · refine ⟨coarse, fun result stage bind port metricsPort two => ?_⟩
    subst two
    change ((Process.start metricsPort.isSome).run coarse).result?.getD (.ok ()) = result
    rw [← same, result?_process holds stage]
    rfl

end Running

/-- Serving is graceful in every order of events, and so is the process that serves on one port or
    on two orderly. -/
theorem graceful_and_orderly :
    (∀ name graceMs events,
      Served.IsGraceful name graceMs events ((Served.start name graceMs).run events)) ∧
      ∀ separate events,
        Running.IsOrderly separate events ((Running.start separate).run events) :=
  ⟨Served.isGraceful, Running.isOrderly⟩

/-- A request that is never finished while its server is stopped. -/
def hangingServed : List ServedEvent :=
  [.serve (.server .accepted), .trigger, .serve .wait, .serve (.server .expired), .serve .timeout]

/-- A signal while the main server has a request that is never finished. -/
def hangingRun : List RunEvent :=
  [.main (.server .accepted), .signal .terminate, .heed, .metrics .wait, .metrics .join,
    .main .wait, .main (.server .expired), .main .timeout, .join, .collect]

theorem graceful_and_orderly_hanging :
    Served.Ends "http" 100 hangingServed (.error (.shutdownTimeout "http" 100)) ∧
      ((Running.start true).run hangingRun).stage =
        .reported (.error (.shutdownTimeout "http" graceMs)) ∧
      exitStatus (.error (.shutdownTimeout "http" graceMs)) ≠ 0 := by
  obtain ⟨graceful, orderly⟩ := graceful_and_orderly
  refine ⟨(graceful "http" 100 hangingServed).ends _ rfl, rfl, fun success => ?_⟩
  have both := ((orderly true hangingRun).succeeds _ rfl).mp success
  cases both.1

end Gatehouse.Service
