import Gatehouse.Mail.Dialogue
import Mathlib.Data.List.Infix

/-!
# Dialogues step by step

When a step of a dialogue goes well, and what has gone well by the time something is said:
the relay says nothing but its farewell after a step that failed.
-/

namespace Gatehouse.Mail

/-- `P` holds of every event, given the events in front of it. -/
def Throughout (P : List Event → Event → Prop) (events : List Event) : Prop :=
  ∀ before event, before ++ [event] <+: events → P before event

section Throughout

variable {P Q : List Event → Event → Prop} {events more : List Event}

theorem throughout_nil : Throughout P [] := by
  intro before event front
  simp at front

theorem throughout_append :
    Throughout P (events ++ more) ↔
      Throughout P events ∧ Throughout (fun before => P (events ++ before)) more := by
  constructor
  · intro all
    refine ⟨?_, ?_⟩
    · intro before event front
      exact all before event (front.trans (List.prefix_append _ _))
    · intro before event front
      apply all
      rw [List.append_assoc]
      exact (List.prefix_append_right_inj events).mpr front
  · rintro ⟨first, second⟩ before event front
    rcases List.prefix_or_prefix_of_prefix front (List.prefix_append events more) with
      short | long
    · exact first before event short
    · rcases List.prefix_concat_iff.mp long with rfl | ⟨rest, rfl⟩
      · exact first before event List.prefix_rfl
      · rw [List.append_assoc] at front
        exact second rest event ((List.prefix_append_right_inj events).mp front)

theorem throughout_singleton {event : Event} : Throughout P [event] ↔ P [] event := by
  constructor
  · intro all
    exact all [] event List.prefix_rfl
  · intro holds before other front
    have single := front.eq_of_length_le (by simp)
    obtain ⟨rfl, same⟩ := List.append_eq_singleton_iff.mp single |>.resolve_right (by simp)
    cases same
    exact holds

theorem throughout_cons {event : Event} :
    Throughout P (event :: events) ↔
      P [] event ∧ Throughout (fun before => P (event :: before)) events := by
  rw [← List.singleton_append, throughout_append, throughout_singleton]
  rfl

theorem Throughout.imp (all : Throughout P events)
    (weaker : ∀ before event, event ∈ events → P before event → Q before event) :
    Throughout Q events := by
  intro before event front
  exact weaker before event (front.subset (by simp)) (all before event front)

end Throughout

/-- Whether something was said, and not secured. -/
def Event.isSaid : Event → Bool
  | .said _ => true
  | .secured => false

/-- A server that can be reached and follows a script: the first reply is its greeting, and every
    command gets the next one, until it closes the connection. -/
def Server.ofScript (replies : List Response) (handshake : Handshake) : Server where
  prepare := fun _ => .ok ()
  connect := fun _ _ => .ok ()
  respond := fun events => replies.getD (events.countP Event.isSaid) .closed
  handshake := fun _ => handshake

/-- A good reply. -/
def Response.IsPositive (response : Response) : Prop :=
  ∃ reply, response = .reply reply ∧ reply.isPositive = true

/-- A reply that settles a command: a good one, which names the server if it has been greeted, and
    does not ask for more if the relay has logged in. -/
def Reply.Settles (reply : Reply) : Command → Prop
  | .hello => reply.isPositive = true ∧ reply.firstWord?.isSome = true
  | .login _ _ => reply.isPositive = true ∧ reply.isChallenge = false
  | _ => reply.isPositive = true

theorem Reply.Settles.isPositive {reply : Reply} {command : Command}
    (settles : reply.Settles command) : reply.isPositive = true := by
  cases command <;> simp_all [Settles]

/-- Whether a command hands over a message or a part of it. -/
def Command.isMail : Command → Bool
  | .sender _ => true
  | .recipient _ => true
  | .data => true
  | .message _ => true
  | _ => false

theorem Reply.settles_of_isMail {reply : Reply} {command : Command} (mail : command.isMail = true) :
    reply.Settles command ↔ reply.isPositive = true := by
  cases command <;> simp_all [Settles, Command.isMail]

/-- A secured connection comes about: the certificate verifies, or does not have to. -/
def Handshake.Secures (acceptInvalid : Bool) (handshake : Handshake) : Prop :=
  handshake = .trusted ∨ handshake = .untrusted ∧ acceptInvalid = true

/-- The server goes along with an event: it settles a command, or takes part in securing the
    connection. -/
def Server.Agrees (acceptInvalid : Bool) (server : Server) (before : List Event) : Event → Prop
  | .said command =>
    ∃ reply, server.respond (before ++ [.said command]) = .reply reply ∧ reply.Settles command
  | .secured => (server.handshake before).Secures acceptInvalid

theorem Server.Agrees.isPositive {acceptInvalid : Bool} {server : Server} {before : List Event}
    {command : Command} (agrees : server.Agrees acceptInvalid before (.said command)) :
    (server.respond (before ++ [.said command])).IsPositive := by
  obtain ⟨reply, replied, settles⟩ := agrees
  exact ⟨reply, replied, settles.isPositive⟩

/-- What a step that goes well adds to what has happened. -/
def Step.events : Step → List Event
  | .greeting => []
  | .hello => [.said .hello]
  | .startTls => [.said .startTls]
  | .secure => [.secured]
  | .login user password => [.said (.login user password)]
  | .say command => [.said command]

/-- A step goes well, and leads from one state of the dialogue to another one. -/
inductive Goes (acceptInvalid : Bool) (server : Server) (progress : Progress) :
    Step → Progress → Prop where
  | greeting (welcome : (server.respond progress.events).IsPositive) :
    Goes acceptInvalid server progress .greeting progress
  | hello {reply : Reply} (replied : server.respond (progress.say .hello).events = .reply reply)
    (settles : reply.Settles .hello) :
    Goes acceptInvalid server progress .hello
      { progress.say .hello with capabilities := reply }
  | startTls (offered : progress.capabilities.lists "STARTTLS" = true)
    (agrees : server.Agrees acceptInvalid progress.events (.said .startTls)) :
    Goes acceptInvalid server progress .startTls (progress.say .startTls)
  | secure (agrees : server.Agrees acceptInvalid progress.events .secured) :
    Goes acceptInvalid server progress .secure
      { progress with events := progress.events ++ [.secured] }
  | login {user password : String} (offered : progress.capabilities.listsLogin "PLAIN" = true)
    (agrees : server.Agrees acceptInvalid progress.events (.said (.login user password))) :
    Goes acceptInvalid server progress (.login user password)
      (progress.say (.login user password))
  | say {command : Command}
    (replied : (server.respond (progress.say command).events).IsPositive) :
    Goes acceptInvalid server progress (.say command) (progress.say command)

section Steps

variable {acceptInvalid : Bool} {server : Server} {progress next last : Progress} {step : Step}
  {steps more : List Step}

theorem listen_eq_ok_iff {events : List Event} {reply : Reply} :
    listen server events = .ok reply ↔
      server.respond events = .reply reply ∧ reply.isPositive = true := by
  unfold listen
  cases server.respond events with
  | reply other =>
    by_cases positive : other.isPositive = true
    · simp only [positive, if_pos, Except.ok.injEq, Response.reply.injEq]
      constructor
      · rintro rfl
        exact ⟨rfl, positive⟩
      · rintro ⟨rfl, -⟩
        rfl
    · simp only [positive, if_neg, Bool.false_eq_true, not_false_eq_true, reduceCtorEq,
        Response.reply.injEq, false_iff, not_and]
      rintro rfl
      exact positive
  | malformed => simp
  | closed => simp

theorem listen_map_eq_ok_iff {events : List Event} :
    ((listen server events).map fun _ => ()) = .ok () ↔ (server.respond events).IsPositive := by
  unfold Response.IsPositive
  simp only [← listen_eq_ok_iff]
  cases listen server events with
  | ok reply => simp [Except.map]
  | error fault => simp [Except.map]

theorem Step.goes_of_perform
    (performed : step.perform acceptInvalid server progress = (.ok (), next)) :
    Goes acceptInvalid server progress step next := by
  cases step with
  | greeting =>
    rw [Step.perform, Prod.mk.injEq, listen_map_eq_ok_iff] at performed
    obtain ⟨welcome, rfl⟩ := performed
    exact .greeting welcome
  | hello =>
    rw [Step.perform] at performed
    split at performed
    · cases performed
    · rename_i reply heard
      split at performed
      · rename_i named
        cases performed
        obtain ⟨replied, positive⟩ := listen_eq_ok_iff.mp heard
        exact .hello replied ⟨positive, named⟩
      · cases performed
  | startTls =>
    rw [Step.perform] at performed
    split at performed
    · rename_i offered
      rw [Prod.mk.injEq, listen_map_eq_ok_iff] at performed
      obtain ⟨agrees, rfl⟩ := performed
      exact .startTls offered agrees
    · cases performed
  | secure =>
    rw [Step.perform] at performed
    split at performed
    · rename_i trusted
      cases performed
      exact .secure (.inl trusted)
    · rename_i untrusted
      split at performed
      · rename_i accepted
        cases performed
        exact .secure (.inr ⟨untrusted, accepted⟩)
      · cases performed
    · cases performed
  | login user password =>
    rw [Step.perform] at performed
    split at performed
    · rename_i offered
      dsimp only at performed
      split at performed
      · cases performed
      · rename_i reply heard
        rw [Prod.mk.injEq] at performed
        obtain ⟨settled, rfl⟩ := performed
        obtain ⟨replied, positive⟩ := listen_eq_ok_iff.mp heard
        refine .login offered ⟨reply, replied, positive, ?_⟩
        by_contra challenge
        rw [if_pos (by simpa using challenge)] at settled
        cases settled
    · cases performed
  | say command =>
    rw [Step.perform, Prod.mk.injEq, listen_map_eq_ok_iff] at performed
    obtain ⟨replied, rfl⟩ := performed
    exact .say replied

theorem Goes.perform (goes : Goes acceptInvalid server progress step next) :
    step.perform acceptInvalid server progress = (.ok (), next) := by
  cases goes with
  | greeting welcome =>
    rw [Step.perform, listen_map_eq_ok_iff.mpr welcome]
  | hello replied settles =>
    rw [Step.perform]
    simp only [listen_eq_ok_iff.mpr ⟨replied, settles.1⟩, settles.2, if_pos]
  | startTls offered agrees =>
    have heard : (listen server (progress.say .startTls).events).map (fun _ => ()) = .ok () :=
      listen_map_eq_ok_iff.mpr agrees.isPositive
    rw [Step.perform, if_pos offered]
    exact Prod.ext heard rfl
  | secure agrees =>
    rw [Step.perform]
    rcases agrees with trusted | ⟨untrusted, accepted⟩
    · simp only [trusted]
    · simp only [untrusted, accepted, if_pos]
  | @login user password offered agrees =>
    obtain ⟨reply, replied, positive, settled⟩ := agrees
    have heard : listen server (progress.say (.login user password)).events = .ok reply :=
      listen_eq_ok_iff.mpr ⟨replied, positive⟩
    rw [Step.perform, if_pos offered]
    simp only [heard, settled, Bool.false_eq_true, if_false]
  | say replied =>
    rw [Step.perform, listen_map_eq_ok_iff.mpr replied]

theorem Goes.events_eq (goes : Goes acceptInvalid server progress step next) :
    next.events = progress.events ++ step.events := by
  cases goes <;> simp [Step.events, Progress.say]

/-- A step that fails leaves at most its own command behind, and never a secured connection. -/
theorem Step.events_of_perform_eq_error {fault : DialogueFault}
    (performed : step.perform acceptInvalid server progress = (.error fault, next)) :
    next.events = progress.events ∨
      ∃ command, step.events = [.said command] ∧
        next.events = progress.events ++ [.said command] := by
  cases step with
  | greeting =>
    left
    rw [perform, Prod.mk.injEq] at performed
    rw [performed.2]
  | hello =>
    right
    rw [perform] at performed
    refine ⟨.hello, rfl, ?_⟩
    split at performed
    · cases performed
      rfl
    · split at performed
      · cases performed
      · cases performed
        rfl
  | startTls =>
    rw [perform] at performed
    split at performed
    · right
      rw [Prod.mk.injEq] at performed
      obtain ⟨-, rfl⟩ := performed
      exact ⟨.startTls, rfl, rfl⟩
    · left
      cases performed
      rfl
  | secure =>
    left
    rw [perform] at performed
    split at performed
    · cases performed
    · split at performed
      · cases performed
      · cases performed
        rfl
    · cases performed
      rfl
  | login user password =>
    rw [perform] at performed
    split at performed
    · right
      refine ⟨.login user password, rfl, ?_⟩
      dsimp only at performed
      split at performed
      · cases performed
        rfl
      · rw [Prod.mk.injEq] at performed
        obtain ⟨-, rfl⟩ := performed
        rfl
    · left
      cases performed
      rfl
  | say command =>
    right
    rw [perform, Prod.mk.injEq] at performed
    obtain ⟨-, rfl⟩ := performed
    exact ⟨command, rfl, rfl⟩

/-- Steps that are passed by the time of another one: all in front of the first place where that one
    can be. -/
theorem exists_append_of_not_mem {steps more front back : List Step} {step : Step}
    (same : steps ++ more = front ++ step :: back) (other : step ∉ steps) :
    ∃ rest, front = steps ++ rest ∧ more = rest ++ step :: back := by
  rcases List.append_eq_append_iff.mp same with ⟨rest, rfl, later⟩ | ⟨rest, rfl, later⟩
  · exact ⟨rest, rfl, later⟩
  · cases rest with
    | nil => exact ⟨[], by simp, by simpa using later.symm⟩
    | cons first rest =>
      obtain ⟨rfl, -⟩ := List.cons.inj later
      simp at other

/-- Steps that go well, one after the other. -/
inductive Advances (acceptInvalid : Bool) (server : Server) :
    Progress → List Step → Progress → Prop where
  | nil {progress : Progress} : Advances acceptInvalid server progress [] progress
  | cons {progress next last : Progress} {step : Step} {steps : List Step}
    (goes : Goes acceptInvalid server progress step next)
    (rest : Advances acceptInvalid server next steps last) :
    Advances acceptInvalid server progress (step :: steps) last

theorem Advances.events_eq (advances : Advances acceptInvalid server progress steps last) :
    last.events = progress.events ++ steps.flatMap Step.events := by
  induction advances with
  | nil => simp
  | cons goes rest ih => rw [ih, goes.events_eq, List.flatMap_cons, List.append_assoc]

/-- Along steps that go well the server goes along with everything. -/
theorem Advances.agrees (advances : Advances acceptInvalid server progress steps last)
    (mail : ∀ command, .say command ∈ steps → command.isMail = true) :
    Throughout (fun before => server.Agrees acceptInvalid (progress.events ++ before))
      (steps.flatMap Step.events) := by
  induction advances with
  | nil => exact throughout_nil
  | @cons progress next last step steps goes rest ih =>
    rw [List.flatMap_cons, throughout_append]
    refine ⟨?_, ?_⟩
    · cases goes with
      | greeting welcome => exact throughout_nil
      | hello replied settles =>
        rw [Step.events, throughout_singleton, List.append_nil]
        exact ⟨_, replied, settles⟩
      | startTls offered agrees =>
        rw [Step.events, throughout_singleton, List.append_nil]
        exact agrees
      | secure agrees =>
        rw [Step.events, throughout_singleton, List.append_nil]
        exact agrees
      | login offered agrees =>
        rw [Step.events, throughout_singleton, List.append_nil]
        exact agrees
      | @say command replied =>
        rw [Step.events, throughout_singleton, List.append_nil]
        obtain ⟨reply, replied, positive⟩ := replied
        have known := mail command List.mem_cons_self
        exact ⟨reply, replied, (Reply.settles_of_isMail known).mpr positive⟩
    · have later := ih fun command member => mail command (List.mem_cons_of_mem _ member)
      simpa only [goes.events_eq, List.append_assoc] using later

/-- Commands of a message to all of which the server goes along go well as steps. -/
theorem advances_say (progress : Progress) {commands : List Command}
    (agrees : Throughout (fun before => server.Agrees acceptInvalid (progress.events ++ before))
      (commands.map .said)) :
    ∃ last, Advances acceptInvalid server progress (commands.map .say) last := by
  induction commands generalizing progress with
  | nil => exact ⟨progress, .nil⟩
  | cons command commands ih =>
    rw [List.map_cons, throughout_cons, List.append_nil] at agrees
    obtain ⟨first, later⟩ := agrees
    obtain ⟨last, rest⟩ := ih (progress.say command) (by
      simpa only [Progress.say, List.append_assoc, List.singleton_append] using later)
    exact ⟨last, .cons (.say first.isPositive) rest⟩

/-- An upgrade of the connection takes place only if the reply to the name of the relay offers
    it. -/
theorem Advances.offered_startTls
    (advances : Advances acceptInvalid server progress (.hello :: .startTls :: more) last) :
    ∃ reply, server.respond (progress.events ++ [.said .hello]) = .reply reply ∧
      reply.lists "STARTTLS" = true := by
  cases advances with
  | cons named rest =>
    cases named with
    | hello replied settles =>
      cases rest with
      | cons starts rest =>
        cases starts with
        | startTls offered agrees => exact ⟨_, replied, offered⟩

/-- A login takes place only if the reply to the name of the relay offers it. -/
theorem Advances.offered_login {user password : String}
    (advances : Advances acceptInvalid server progress (.hello :: .login user password :: more)
      last) :
    ∃ reply, server.respond (progress.events ++ [.said .hello]) = .reply reply ∧
      reply.listsLogin "PLAIN" = true := by
  cases advances with
  | cons named rest =>
    cases named with
    | hello replied settles =>
      cases rest with
      | cons enters rest =>
        cases enters with
        | login offered agrees => exact ⟨_, replied, offered⟩

theorem Advances.welcome
    (advances : Advances acceptInvalid server progress (.greeting :: more) last) :
    (server.respond progress.events).IsPositive ∧
      Advances acceptInvalid server progress more last := by
  cases advances with
  | cons greeted rest =>
    cases greeted with
    | greeting welcome => exact ⟨welcome, rest⟩

/-- If every step goes well, all of them have happened, and the farewell. -/
theorem Advances.perform_eq (advances : Advances acceptInvalid server progress steps last) :
    perform acceptInvalid server progress steps = (.ok (), last.events ++ [.said .quit]) := by
  induction advances with
  | nil => rfl
  | cons goes rest ih =>
    rw [perform, goes.perform]
    exact ih

/-- A dialogue succeeds exactly if every step goes well. -/
theorem perform_eq_ok_iff :
    (perform acceptInvalid server progress steps).1 = .ok () ↔
      ∃ last, Advances acceptInvalid server progress steps last := by
  constructor
  · intro performed
    induction steps generalizing progress with
    | nil => exact ⟨progress, .nil⟩
    | cons step steps ih =>
      rw [perform] at performed
      split at performed
      · rename_i next stepped
        obtain ⟨last, rest⟩ := ih performed
        exact ⟨last, .cons (Step.goes_of_perform stepped) rest⟩
      · cases performed
  · rintro ⟨last, advances⟩
    rw [advances.perform_eq]

theorem Step.length_events_le (step : Step) : step.events.length ≤ 1 := by
  cases step <;> simp [events]

/-- After a step that failed the relay says its farewell, or nothing. -/
theorem exists_farewell (quits : Bool) (next : Progress) :
    ∃ tail, (if quits then next.say .quit else next).events = next.events ++ tail ∧
      ∀ event ∈ tail, event = .said .quit := by
  cases quits with
  | true => exact ⟨[.said .quit], rfl, by simp⟩
  | false => exact ⟨[], by simp, by simp⟩

/-- What happens is a part of what the steps add if they go well, and perhaps a farewell. -/
theorem exists_events_perform (acceptInvalid : Bool) (server : Server) (progress : Progress)
    (steps : List Step) :
    ∃ happened tail,
      (perform acceptInvalid server progress steps).2 = progress.events ++ (happened ++ tail) ∧
      happened <+: steps.flatMap Step.events ∧ ∀ event ∈ tail, event = .said .quit := by
  induction steps generalizing progress with
  | nil => exact ⟨[], [.said .quit], rfl, List.nil_prefix, by simp⟩
  | cons step steps ih =>
    rw [perform, List.flatMap_cons]
    split
    · rename_i next stepped
      obtain ⟨happened, tail, same, front, farewell⟩ := ih next
      refine ⟨step.events ++ happened, tail, ?_, ?_, farewell⟩
      · rw [same, (Step.goes_of_perform stepped).events_eq]
        simp only [List.append_assoc]
      · exact (List.prefix_append_right_inj _).mpr front
    · rename_i fault next stepped
      obtain ⟨tail, farewell, only⟩ := exists_farewell (step.quitsOnFault progress) next
      rcases Step.events_of_perform_eq_error stepped with same | ⟨command, added, said⟩
      · exact ⟨[], tail, by simp [farewell, same], List.nil_prefix, only⟩
      · refine ⟨[.said command], tail, by simp [farewell, said], ?_, only⟩
        rw [added]
        exact List.prefix_append _ _

theorem prefix_perform : progress.events <+: (perform acceptInvalid server progress steps).2 := by
  obtain ⟨happened, tail, same, -, -⟩ := exists_events_perform acceptInvalid server progress steps
  rw [same]
  exact List.prefix_append _ _

theorem Step.prefix_of_prefix_append (step : Step) {before after : List Event} {event : Event}
    (front : step.events <+: before ++ event :: after) :
    step.events <+: before ∨ step.events = [event] ∧ before = [] := by
  match added : step.events, step.length_events_le with
  | [], _ => exact .inl List.nil_prefix
  | [only], _ =>
    rw [added] at front
    cases before with
    | nil => exact .inr ⟨by simpa using front, rfl⟩
    | cons first rest =>
      left
      simpa using front

/-- Whatever happens, the farewell apart, belongs to a step, and all steps in front of it have gone
    well; and so has the step itself if the connection is secured. -/
theorem exists_advances_of_perform {before after : List Event} {event : Event}
    (stays : event ≠ .said .quit)
    (happened : (perform acceptInvalid server progress steps).2 =
      progress.events ++ (before ++ event :: after)) :
    ∃ front step back between, steps = front ++ step :: back ∧ step.events = [event] ∧
      Advances acceptInvalid server progress front between ∧
      between.events = progress.events ++ before ∧
      (event = .secured → ∃ next, Goes acceptInvalid server between step next) := by
  induction steps generalizing progress before with
  | nil =>
    rw [perform, Progress.say, List.append_cancel_left_eq] at happened
    have member : event ∈ [Event.said .quit] := by simp [happened]
    exact absurd (List.mem_singleton.mp member) stays
  | cons step steps ih =>
    rw [perform] at happened
    split at happened
    · rename_i next stepped
      have goes := Step.goes_of_perform stepped
      have longer : progress.events ++ step.events <+:
          progress.events ++ (before ++ event :: after) := by
        rw [← goes.events_eq, ← happened]
        exact prefix_perform
      rw [List.prefix_append_right_inj] at longer
      -- Either what this step adds stands in front of the event, or it is the event.
      rcases step.prefix_of_prefix_append longer with ⟨rest, rfl⟩ | ⟨first, rfl⟩
      · have later : (perform acceptInvalid server next steps).2 =
            next.events ++ (rest ++ event :: after) := by
          rw [happened, goes.events_eq]
          simp
        obtain ⟨front, other, back, between, rfl, added, advances, same, well⟩ := ih later
        refine ⟨step :: front, other, back, between, rfl, added, .cons goes advances, ?_, well⟩
        rw [same, goes.events_eq, List.append_assoc]
      · exact ⟨[], step, steps, progress, rfl, first, .nil, by simp, fun _ => ⟨next, goes⟩⟩
    · rename_i fault next stepped
      obtain ⟨tail, farewell, only⟩ := exists_farewell (step.quitsOnFault progress) next
      rw [farewell] at happened
      rcases Step.events_of_perform_eq_error stepped with same | ⟨command, added, said⟩
      · rw [same, List.append_cancel_left_eq] at happened
        exact absurd (only event (by simp [happened])) stays
      · rw [said, List.append_assoc, List.append_cancel_left_eq] at happened
        cases before with
        | nil =>
          cases happened
          exact ⟨[], step, steps, progress, rfl, added, .nil, by simp, nofun⟩
        | cons first rest =>
          have later : tail = rest ++ event :: after := by simpa using (List.cons.inj happened).2
          exact absurd (only event (by simp [later])) stays

end Steps

end Gatehouse.Mail
