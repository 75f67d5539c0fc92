import Gatehouse.Proofs.Service.Serving

/-!
# How the process ends

The process tells all its servers to stop when it notices a signal or the report of the
main one, and never before.  It reports what the main server does, or if that is a success
what the other one does.
-/

namespace Gatehouse.Service

/-! ## Serving as a part of the process -/

/-- What happens while serving, of what happens around it. -/
def ServedEvent.serve? : ServedEvent → Option ServeEvent
  | trigger => none
  | close => none
  | serve event => some event

/-- Serving as it comes about with requests to shut down among the events. -/
def IsServed (name : String) (events : List ServeEvent) (channel : Channel) (serving : Serving) :
    Prop :=
  ∃ served, (Served.start name graceMs).run served = ⟨channel, serving⟩ ∧
    served.filterMap ServedEvent.serve? = events

namespace IsServed

variable {name : String} {events : List ServeEvent} {channel : Channel} {serving : Serving}
  {result : Except StartupError Unit}

theorem happen (isServed : IsServed name events channel serving) (event : ServeEvent) :
    IsServed name (events ++ [event]) channel (serving.happen channel event) := by
  obtain ⟨served, reached, rfl⟩ := isServed
  refine ⟨served ++ [.serve event], ?_, ?_⟩
  · rw [Served.run_concat, reached]
    rfl
  · rw [List.filterMap_append]
    rfl

theorem trigger (isServed : IsServed name events channel serving)
    (there : channel.closed = false) : IsServed name events channel.trigger serving := by
  obtain ⟨served, reached, rfl⟩ := isServed
  refine ⟨served ++ [.trigger], ?_, ?_⟩
  · rw [Served.run_concat, reached, Served.happen]
    simp [there]
  · rw [List.filterMap_append]
    exact List.append_nil _

theorem requested (isServed : IsServed name events channel serving) (expired : Bool)
    (draining : serving.stage = .draining expired) : channel.requested = true := by
  obtain ⟨served, reached, _⟩ := isServed
  have follows := Served.follows_run name graceMs served
  rw [reached] at follows
  exact follows.asked.mpr (follows.draining expired draining)

/-- Before the request only a server that has failed reports, and it reports that. -/
theorem failed (isServed : IsServed name events channel serving)
    (unasked : channel.requested = false) (reported : serving.result? = some result) :
    ∃ reason, serving.failure = some reason ∧ result = .error (.serve serving.name reason) := by
  obtain ⟨served, reached, _⟩ := isServed
  have follows := Served.follows_run name graceMs served
  have ends : Served.Ends name graceMs served result :=
    Served.ends_of_result? (by rw [reached]; exact reported)
  rw [reached] at follows
  rcases follows.reported result reported with rfl | ended
  · cases ends with
    | late before between later split asked =>
      rw [follows.asked.mpr (by rw [split, List.append_assoc]; exact asked.append _)] at unasked
      cases unasked
  · rcases Serving.cause_of_ended? ended with cause | ⟨asked, -⟩
    · exact cause
    · rw [asked] at unasked
      cases unasked

end IsServed

/-! ## The process -/

/-- Whether all servers have been told to stop. -/
def RunStage.isTold : RunStage → Bool
  | selecting => false
  | joining => true
  | collecting _ => true
  | reported _ => true

/-- What happens to the main server, of what happens to the process. -/
def RunEvent.main? : RunEvent → Option ServeEvent
  | main event => some event
  | signal _ => none
  | metrics _ => none
  | heed => none
  | join => none
  | collect => none

/-- What happens to the server of the metrics, of what happens to the process. -/
def RunEvent.metrics? : RunEvent → Option ServeEvent
  | metrics event => some event
  | signal _ => none
  | main _ => none
  | heed => none
  | join => none
  | collect => none

namespace Running

/-- Whether a signal arrives. -/
def IsSignalled (events : List RunEvent) : Prop :=
  ∃ signal, .signal signal ∈ events

/-- What the process reports when its servers have. -/
inductive IsReport (main : Serving) : Option Serving → Except StartupError Unit → Prop
  | alone (result : Except StartupError Unit) (reported : main.result? = some result) :
      IsReport main none result
  | both (metrics : Serving) (result other : Except StartupError Unit)
      (reported : main.result? = some result) (otherReported : metrics.result? = some other) :
      IsReport main (some metrics) (bothReports result other)

/-- What is true of the process after events. -/
structure Holds (separate : Bool) (events : List RunEvent) (running : Running) : Prop where
  channel : running.channel = if running.stage.isTold then Channel.start.trigger else .start
  signalled : running.signalled = true ↔ IsSignalled events
  cause : running.stage.isTold = true → IsSignalled events ∨ running.main.result?.isSome = true
  main : IsServed "http" (events.filterMap RunEvent.main?) running.channel running.main
  metrics : ∀ serving, running.metrics = some serving →
    IsServed "metrics" (events.filterMap RunEvent.metrics?) running.channel serving
  separate : running.metrics.isSome = separate
  collecting : ∀ result, running.stage = .collecting result → running.main.result? = some result
  reported : ∀ result, running.stage = .reported result →
    IsReport running.main running.metrics result

theorem filterMap_concat_of_eq_none {α β : Type} {f : α → Option β} {l : List α} {a : α}
    (none : f a = none) : (l ++ [a]).filterMap f = l.filterMap f := by
  rw [List.filterMap_append, List.filterMap_cons_none none, List.filterMap_nil, List.append_nil]

variable {separate : Bool} {events : List RunEvent} {running : Running}

theorem run_concat (running : Running) (events : List RunEvent) (event : RunEvent) :
    running.run (events ++ [event]) = (running.run events).happen event := by
  rw [run, List.foldl_append]
  rfl

theorem isSignalled_concat {event : RunEvent} :
    IsSignalled (events ++ [event]) ↔ IsSignalled events ∨ ∃ signal, event = .signal signal := by
  simp only [IsSignalled, List.mem_append, List.mem_singleton, exists_or, eq_comm (a := event)]

theorem holds_start (separate : Bool) : Holds separate [] (start separate) where
  channel := rfl
  signalled := by simp [start, IsSignalled]
  cause told := by cases told
  main := ⟨[], rfl, rfl⟩
  metrics serving present := by
    cases separate <;> cases present
    exact ⟨[], rfl, rfl⟩
  separate := by cases separate <;> rfl
  collecting _ stage := by cases stage
  reported _ stage := by cases stage

theorem IsReport.happen {main : Serving} {metrics : Option Serving} {channel : Channel}
    {result : Except StartupError Unit} (report : IsReport main metrics result)
    (mainEvent metricsEvent : ServeEvent) :
    IsReport (main.happen channel mainEvent) metrics result ∧
      IsReport main (metrics.map (·.happen channel metricsEvent)) result := by
  cases report with
  | alone result reported =>
    rw [Serving.happen_of_result? reported]
    exact ⟨.alone result reported, .alone result reported⟩
  | both metrics result other reported otherReported =>
    rw [Serving.happen_of_result? reported, Option.map_some,
      Serving.happen_of_result? otherReported]
    exact ⟨.both metrics result other reported otherReported,
      .both metrics result other reported otherReported⟩

namespace Holds

/-- A look may tell the servers to stop, and may bring the process to a further stage. -/
theorem look (holds : Holds separate events running) {event : RunEvent} {channel : Channel}
    {stage : RunStage}
    (looks : event.main? = none ∧ event.metrics? = none ∧ ¬∃ signal, event = .signal signal)
    (told : channel = running.channel ∧ stage.isTold = running.stage.isTold ∨
      channel = running.channel.trigger ∧ running.stage.isTold = false ∧ stage.isTold = true)
    (cause : stage.isTold = true → IsSignalled events ∨ running.main.result?.isSome = true)
    (collecting : ∀ result, stage = .collecting result → running.main.result? = some result)
    (reported : ∀ result, stage = .reported result → IsReport running.main running.metrics result) :
    Holds separate (events ++ [event]) { running with channel := channel, stage := stage } := by
  obtain ⟨noMain, noMetrics, noSignal⟩ := looks
  have served {name : String} {served : List ServeEvent} {serving : Serving}
      (isServed : IsServed name served running.channel serving) :
      IsServed name served channel serving := by
    rcases told with ⟨rfl, -⟩ | ⟨rfl, untold, -⟩
    · exact isServed
    · refine isServed.trigger ?_
      rw [holds.channel, untold]
      rfl
  have signalled : IsSignalled (events ++ [event]) ↔ IsSignalled events := by
    rw [isSignalled_concat, or_iff_left noSignal]
  refine ⟨?_, ?_, ?_, ?_, ?_, holds.separate, collecting, reported⟩
  · rcases told with ⟨rfl, same⟩ | ⟨rfl, untold, told⟩
    · rw [same]
      exact holds.channel
    · rw [told, holds.channel, untold]
      rfl
  · rw [signalled]
    exact holds.signalled
  · rw [signalled]
    exact cause
  · rw [filterMap_concat_of_eq_none noMain]
    exact served holds.main
  · rw [filterMap_concat_of_eq_none noMetrics]
    exact fun serving present => served (holds.metrics serving present)

theorem heed (holds : Holds separate events running) :
    Holds separate (events ++ [.heed]) running.heed := by
  have looks : RunEvent.heed.main? = none ∧ RunEvent.heed.metrics? = none ∧
      ¬∃ signal, RunEvent.heed = .signal signal := by simp [RunEvent.main?, RunEvent.metrics?]
  unfold Running.heed
  split
  · next selecting signalled =>
    refine holds.look looks (.inr ⟨rfl, ?_, rfl⟩) (fun _ => .inl (holds.signalled.mp signalled))
      ?_ ?_
    · rw [selecting]
      rfl
    · rintro _ ⟨⟩
    · rintro _ ⟨⟩
  · exact holds.look looks (.inl ⟨rfl, rfl⟩) holds.cause holds.collecting holds.reported

theorem join (holds : Holds separate events running) :
    Holds separate (events ++ [.join]) running.join := by
  have looks : RunEvent.join.main? = none ∧ RunEvent.join.metrics? = none ∧
      ¬∃ signal, RunEvent.join = .signal signal := by simp [RunEvent.main?, RunEvent.metrics?]
  unfold Running.join
  split
  · next result selecting reported =>
    refine holds.look looks (.inr ⟨rfl, ?_, rfl⟩) (fun _ => .inr ?_) ?_ ?_
    · rw [selecting]
      rfl
    · rw [reported]
      rfl
    · rintro _ ⟨⟩
      exact reported
    · rintro _ ⟨⟩
  · next result joining reported =>
    refine holds.look looks (.inl ⟨rfl, ?_⟩) (fun _ => .inr ?_) ?_ ?_
    · rw [joining]
      rfl
    · rw [reported]
      rfl
    · rintro _ ⟨⟩
      exact reported
    · rintro _ ⟨⟩
  · exact holds.look looks (.inl ⟨rfl, rfl⟩) holds.cause holds.collecting holds.reported

theorem collect (holds : Holds separate events running) :
    Holds separate (events ++ [.collect]) running.collect := by
  have looks : RunEvent.collect.main? = none ∧ RunEvent.collect.metrics? = none ∧
      ¬∃ signal, RunEvent.collect = .signal signal := by simp [RunEvent.main?, RunEvent.metrics?]
  have ends {main result : Except StartupError Unit} (collecting : running.stage = .collecting main)
      (report : IsReport running.main running.metrics result) :
      Holds separate (events ++ [.collect]) { running with stage := .reported result } := by
    refine holds.look looks (.inl ⟨rfl, ?_⟩) (fun _ => .inr ?_) ?_ ?_
    · rw [collecting]
      rfl
    · rw [holds.collecting main collecting]
      rfl
    · rintro _ ⟨⟩
    · rintro _ ⟨⟩
      exact report
  unfold Running.collect
  split
  · next main collecting none =>
    refine ends collecting ?_
    rw [none]
    exact .alone main (holds.collecting main collecting)
  · next main metrics collecting present =>
    split
    · next result reported =>
      refine ends collecting ?_
      rw [present]
      exact .both metrics main result (holds.collecting main collecting) reported
    · exact holds.look looks (.inl ⟨rfl, rfl⟩) holds.cause holds.collecting holds.reported
  · exact holds.look looks (.inl ⟨rfl, rfl⟩) holds.cause holds.collecting holds.reported

theorem signal (holds : Holds separate events running) (signal : Signal) :
    Holds separate (events ++ [.signal signal]) (running.happen (.signal signal)) := by
  have signalled : IsSignalled (events ++ [.signal signal]) :=
    isSignalled_concat.mpr (.inr ⟨signal, rfl⟩)
  refine ⟨holds.channel, iff_of_true rfl signalled, fun _ => .inl signalled, ?_, ?_,
    holds.separate, holds.collecting, holds.reported⟩
  · rw [filterMap_concat_of_eq_none rfl]
    exact holds.main
  · rw [filterMap_concat_of_eq_none rfl]
    exact holds.metrics

theorem serveMain (holds : Holds separate events running) (event : ServeEvent) :
    Holds separate (events ++ [.main event]) (running.happen (.main event)) := by
  have signalled : IsSignalled (events ++ [.main event]) ↔ IsSignalled events := by
    rw [isSignalled_concat, or_iff_left (by simp)]
  have kept {result : Except StartupError Unit} (reported : running.main.result? = some result) :
      (running.main.happen running.channel event).result? = some result := by
    rw [Serving.happen_of_result? reported, reported]
  refine ⟨holds.channel, ?_, fun told => ?_, ?_, ?_, holds.separate, fun result stage => ?_,
    fun result stage => ?_⟩
  · rw [signalled]
    exact holds.signalled
  · rw [signalled]
    refine (holds.cause told).imp_right fun reported => ?_
    obtain ⟨result, reported⟩ := Option.isSome_iff_exists.mp reported
    exact Option.isSome_iff_exists.mpr ⟨result, kept reported⟩
  · rw [List.filterMap_append]
    exact holds.main.happen event
  · rw [filterMap_concat_of_eq_none rfl]
    exact holds.metrics
  · exact kept (holds.collecting result stage)
  · exact ((holds.reported result stage).happen event event).1

theorem serveMetrics (holds : Holds separate events running) (event : ServeEvent) :
    Holds separate (events ++ [.metrics event]) (running.happen (.metrics event)) := by
  have signalled : IsSignalled (events ++ [.metrics event]) ↔ IsSignalled events := by
    rw [isSignalled_concat, or_iff_left (by simp)]
  refine ⟨holds.channel, ?_, fun told => ?_, ?_, ?_, ?_, holds.collecting, fun result stage => ?_⟩
  · rw [signalled]
    exact holds.signalled
  · rw [signalled]
    exact holds.cause told
  · rw [filterMap_concat_of_eq_none rfl]
    exact holds.main
  · intro serving present
    obtain ⟨before, there, rfl⟩ := Option.map_eq_some_iff.mp present
    rw [List.filterMap_append]
    exact (holds.metrics before there).happen event
  · exact (Option.isSome_map ..).trans holds.separate
  · exact ((holds.reported result stage).happen event event).2

protected theorem happen (holds : Holds separate events running) (event : RunEvent) :
    Holds separate (events ++ [event]) (running.happen event) := by
  cases event with
  | signal signal => exact holds.signal signal
  | main event => exact holds.serveMain event
  | metrics event => exact holds.serveMetrics event
  | heed => exact holds.heed
  | join => exact holds.join
  | collect => exact holds.collect

end Holds

theorem holds_run (separate : Bool) (events : List RunEvent) :
    Holds separate events ((start separate).run events) := by
  induction events using List.reverseRecOn with
  | nil => exact holds_start separate
  | append_singleton events event ih =>
    rw [run_concat]
    exact ih.happen event

end Running

end Gatehouse.Service
