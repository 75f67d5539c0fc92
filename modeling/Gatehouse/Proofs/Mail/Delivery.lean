import Gatehouse.Proofs.Mail.Relay

/-!
# When a message counts as sent

The relay reports a message as sent exactly if the server went along with the whole dialogue
of the mode, and it hands the message over at most once, and only after good replies.
-/

namespace Gatehouse.Mail

/-- All that happens in front of the message if everything goes well. -/
def Settings.preamble (settings : Settings) : List Event :=
  match settings.security with
  | .none => [.said .hello]
  | .startTls => [.said .hello, .said .startTls, .secured, .said .hello]
  | .tls => [.secured, .said .hello,
      .said (.login settings.username (settings.password.getD ""))]

/-- All that happens in front of the farewell if everything goes well. -/
def Settings.dialogue (settings : Settings) (message : Message) : List Event :=
  settings.preamble ++ message.commands.map .said

/-- What has happened when the relay waits for the greeting. -/
def Settings.arrival (settings : Settings) : List Event :=
  match settings.security with
  | .tls => [.secured]
  | _ => []

/-- The server at a host takes a message: it can be reached, its greeting is good, it goes along
    with the whole dialogue of the mode, and offers what the mode needs. -/
structure Settings.IsTaken (settings : Settings) (host : String) (server : Server)
    (message : Message) : Prop where
  prepared : settings.security ≠ .none →
    server.prepare ⟨host, settings.acceptInvalidCertificates⟩ = .ok ()
  reached : server.connect host settings.serverPort = .ok ()
  greeted : (server.respond settings.arrival).IsPositive
  agrees : Throughout (server.Agrees settings.acceptInvalidCertificates) (settings.dialogue message)
  offersStartTls : settings.security = .startTls →
    ∃ reply, server.respond [.said .hello] = .reply reply ∧ reply.lists "STARTTLS" = true
  offersLogin : settings.security = .tls →
    ∃ reply, server.respond [.secured, .said .hello] = .reply reply ∧
      reply.listsLogin "PLAIN" = true

/-- An event that transfers a message to the server. -/
def Event.transfers : Event → Bool
  | .said (.message _) => true
  | _ => false

/-- A run of the relay that reports rightly whether the message was sent. -/
structure IsReported (settings : Settings) (server : Server) (message : Message) : Prop where
  /-- Without a host there is no connection. -/
  unconfigured : settings.host = none ∨ settings.host = some "" →
    send settings server message = (.error (.notConfigured "SMTP_HOST"), [])
  sent : ∀ host, settings.host = some host → host ≠ "" →
    ((send settings server message).1 = .ok () ↔ settings.IsTaken host server message)
  failed : ∀ host, settings.host = some host → host ≠ "" →
    ¬settings.IsTaken host server message →
    ∃ reason, (send settings server message).1 = .error (.transport reason) ∨
      (send settings server message).1 = .error (.tls reason)
  /-- Success means that all of the dialogue has happened, and nothing else has. -/
  complete : (send settings server message).1 = .ok () →
    (send settings server message).2 = settings.dialogue message ++ [.said .quit]
  /-- The message is transferred only if the server has gone along with all in front of it. -/
  earned : Throughout
    (fun before event => event.transfers = true →
      (server.respond settings.arrival).IsPositive ∧
        Throughout (server.Agrees settings.acceptInvalidCertificates) before)
    (send settings server message).2
  once : (send settings server message).2.countP Event.transfers ≤ 1

section Run

variable {settings : Settings} {server : Server} {message : Message} {host : String}
  {transport : Transport} {last : Progress}

theorem Message.isMail_of_say_mem_steps {command : Command}
    (member : .say command ∈ message.steps) : command.isMail = true := by
  obtain ⟨other, same, mail⟩ := exists_of_mem_steps member
  cases same
  exact mail

theorem Transport.isMail_of_say_mem {command : Command}
    (member : .say command ∈ transport.opening ++ message.steps) : command.isMail = true := by
  rcases List.mem_append.mp member with opening | mail
  · rcases Transport.mem_opening opening with
      same | same | same | same | ⟨credentials, -, same⟩ <;> cases same
  · exact Message.isMail_of_say_mem_steps mail

theorem Message.flatMap_events_steps (message : Message) :
    message.steps.flatMap Step.events = message.commands.map .said := by
  rw [steps_eq, List.flatMap_map, List.map_eq_flatMap]
  rfl

theorem Settings.Leads.events_eq (leads : settings.Leads server.prepare host transport) :
    (transport.opening ++ message.steps).flatMap Step.events = settings.dialogue message := by
  rw [List.flatMap_append, Message.flatMap_events_steps, Settings.dialogue, Settings.preamble]
  cases leads with
  | plain mode => simp only [mode]; rfl
  | upgraded mode prepared => simp only [mode]; rfl
  | wrapped mode prepared => simp only [mode]; rfl

/-- What the server agrees to does not depend on the policy for certificates where the connection is
    not secured. -/
theorem throughout_agrees_of_plain {acceptInvalid acceptInvalid' : Bool} {events : List Event}
    (mode : settings.security = .none) (front : events <+: settings.dialogue message)
    (agrees : Throughout (server.Agrees acceptInvalid) events) :
    Throughout (server.Agrees acceptInvalid') events := by
  refine agrees.imp (Q := server.Agrees acceptInvalid') ?_
  intro before event member holds
  have said : ∃ command, event = .said command := by
    have member := front.subset member
    simp only [Settings.dialogue, Settings.preamble, mode, List.singleton_append, List.mem_cons,
      List.mem_map]
      at member
    rcases member with rfl | ⟨command, -, rfl⟩
    · exact ⟨.hello, rfl⟩
    · exact ⟨command, rfl⟩
  obtain ⟨command, rfl⟩ := said
  exact holds

theorem Settings.Leads.agrees {front : List Step}
    (leads : settings.Leads server.prepare host transport)
    (steps : front <+: transport.opening ++ message.steps)
    (advances : Advances transport.tls.acceptsInvalid server .start front last) :
    Throughout (server.Agrees settings.acceptInvalidCertificates) (front.flatMap Step.events) := by
  have agrees : Throughout (server.Agrees transport.tls.acceptsInvalid)
      (front.flatMap Step.events) := by
    apply advances.agrees
    intro command member
    exact Transport.isMail_of_say_mem (steps.subset member)
  have said : front.flatMap Step.events <+: settings.dialogue message := by
    rw [← leads.events_eq]
    obtain ⟨back, same⟩ := steps
    rw [← same, List.flatMap_append]
    exact List.prefix_append _ _
  cases leads with
  | plain mode => exact throughout_agrees_of_plain mode said agrees
  | upgraded mode prepared => exact agrees
  | wrapped mode prepared => exact agrees

theorem Settings.Leads.greeted {more : List Step}
    (leads : settings.Leads server.prepare host transport)
    (advances : Advances transport.tls.acceptsInvalid server .start (transport.opening ++ more)
      last) :
    (server.respond settings.arrival).IsPositive := by
  rw [Settings.arrival]
  cases leads with
  | plain mode =>
    rw [mode]
    exact advances.welcome.1
  | upgraded mode prepared =>
    rw [mode]
    exact advances.welcome.1
  | wrapped mode prepared =>
    rw [mode]
    cases advances with
    | cons secured rest =>
      cases secured with
      | secure trusted => exact rest.welcome.1

theorem Settings.Leads.isTaken (leads : settings.Leads server.prepare host transport)
    (reached : server.connect host settings.serverPort = .ok ())
    (advances : Advances transport.tls.acceptsInvalid server .start
      (transport.opening ++ message.steps) last) :
    settings.IsTaken host server message := by
  have greeted := leads.greeted advances
  have agrees := leads.agrees List.prefix_rfl advances
  rw [leads.events_eq] at agrees
  cases leads with
  | plain mode =>
    refine ⟨fun other => absurd mode other, reached, greeted, agrees, fun other => ?_,
      fun other => ?_⟩
    · cases mode.symm.trans other
    · cases mode.symm.trans other
  | upgraded mode prepared =>
    refine ⟨fun _ => prepared, reached, greeted, agrees, fun _ => ?_, fun other => ?_⟩
    · exact advances.welcome.2.offered_startTls
    · cases mode.symm.trans other
  | wrapped mode prepared =>
    refine ⟨fun _ => prepared, reached, greeted, agrees, fun other => ?_, fun _ => ?_⟩
    · cases mode.symm.trans other
    · cases advances with
      | cons secured rest =>
        cases secured with
        | secure trusted => exact rest.welcome.2.offered_login

theorem Settings.IsTaken.exists_advances (taken : settings.IsTaken host server message) :
    ∃ transport last, settings.Leads server.prepare host transport ∧
      Advances transport.tls.acceptsInvalid server .start
        (transport.opening ++ message.steps) last := by
  obtain ⟨prepared, reached, greeted, agrees, offersStartTls, offersLogin⟩ := taken
  cases mode : settings.security with
  | none =>
    have agrees : Throughout (server.Agrees false) (settings.dialogue message) :=
      throughout_agrees_of_plain mode List.prefix_rfl agrees
    simp only [Settings.dialogue, Settings.preamble, Settings.arrival, mode, List.singleton_append,
      throughout_cons] at agrees greeted
    obtain ⟨⟨reply, replied, settles⟩, later⟩ := agrees
    obtain ⟨last, mail⟩ := advances_say ⟨[.said .hello], reply⟩ later
    refine ⟨_, last, .plain mode, ?_⟩
    rw [message.steps_eq]
    exact .cons (.greeting greeted) (.cons (.hello replied settles) mail)
  | startTls =>
    have prepared := prepared (by simp [mode])
    simp only [Settings.dialogue, Settings.preamble, Settings.arrival, mode, List.cons_append,
      List.nil_append, throughout_cons] at agrees greeted
    obtain ⟨⟨capabilities, listed, named⟩, started, secured, ⟨reply, replied, settles⟩, later⟩ :=
      agrees
    obtain ⟨other, offered, lists⟩ := offersStartTls mode
    cases listed.symm.trans offered
    obtain ⟨last, mail⟩ := advances_say
      ⟨[.said .hello, .said .startTls, .secured, .said .hello], reply⟩ later
    refine ⟨_, last, .upgraded mode prepared, ?_⟩
    rw [message.steps_eq]
    exact .cons (.greeting greeted) (.cons (.hello listed named) (.cons (.startTls lists started)
      (.cons (.secure secured) (.cons (.hello replied settles) mail))))
  | tls =>
    have prepared := prepared (by simp [mode])
    simp only [Settings.dialogue, Settings.preamble, Settings.arrival, mode, List.cons_append,
      List.nil_append, throughout_cons] at agrees greeted
    obtain ⟨secured, ⟨capabilities, listed, named⟩, login, later⟩ := agrees
    obtain ⟨other, offered, lists⟩ := offersLogin mode
    cases listed.symm.trans offered
    obtain ⟨last, mail⟩ := advances_say
      ⟨[.secured, .said .hello, .said (.login settings.username (settings.password.getD ""))],
        capabilities⟩ later
    refine ⟨_, last, .wrapped mode prepared, ?_⟩
    rw [message.steps_eq]
    exact .cons (.secure secured) (.cons (.greeting greeted) (.cons (.hello listed named)
      (.cons (.login lists login) mail)))

theorem send_eq_ok_iff_isTaken (given : settings.host.filter (!·.isEmpty) = some host) :
    (send settings server message).1 = .ok () ↔ settings.IsTaken host server message := by
  rw [send_eq_ok_iff]
  constructor
  · rintro ⟨host', transport, last, given', leads, reached, advances, -⟩
    cases given.symm.trans given'
    exact leads.isTaken reached advances
  · intro taken
    obtain ⟨transport, last, leads, advances⟩ := taken.exists_advances
    have sent : (send settings server message).1 = .ok () ∧
        (send settings server message).2 = last.events ++ [.said .quit] := by
      rw [send, leads.transport_eq given]
      simp only [leads.place.1, leads.place.2, taken.reached, advances.perform_eq, and_true]
      rfl
    exact ⟨host, transport, last, given, leads, taken.reached, advances, sent.2⟩

/-- With a host every failure is one of the connection or of securing it. -/
theorem exists_fault (given : settings.host.filter (!·.isEmpty) = some host)
    (failed : (send settings server message).1 ≠ .ok ()) :
    ∃ reason, (send settings server message).1 = .error (.transport reason) ∨
      (send settings server message).1 = .error (.tls reason) := by
  rcases send_cases settings server message with
    ⟨none, -⟩ | ⟨host', reason, -, -, -, run⟩ | ⟨host', reason, -, -, run⟩ |
    ⟨host', transport, -, -, -, run⟩
  · cases none.symm.trans given
  · exact ⟨reason, .inr (by rw [run])⟩
  · exact ⟨_, .inl (by rw [run])⟩
  · rw [run] at failed ⊢
    dsimp only at failed ⊢
    cases ended : (perform transport.tls.acceptsInvalid server .start
      (transport.opening ++ message.steps)).1 with
    | ok done => exact absurd (by rw [ended]; rfl) failed
    | error fault => exact ⟨fault.message, .inl rfl⟩

theorem dialogue_of_sent (sent : (send settings server message).1 = .ok ()) :
    (send settings server message).2 = settings.dialogue message ++ [.said .quit] := by
  obtain ⟨host, transport, last, -, leads, -, advances, happened⟩ := send_eq_ok_iff.mp sent
  rw [happened, advances.events_eq, leads.events_eq]
  rfl

/-- The message is transferred after a dialogue in which everything has gone well. -/
theorem agrees_of_transfers {before : List Event} {event : Event}
    (happened : before ++ [event] <+: (send settings server message).2)
    (transfers : event.transfers = true) :
    (server.respond settings.arrival).IsPositive ∧
      Throughout (server.Agrees settings.acceptInvalidCertificates) before := by
  have stays : event ≠ .said .quit := by
    rintro rfl
    cases transfers
  obtain ⟨host, transport, front, step, back, between, leads, steps, added, advances, rfl, -⟩ :=
    exists_advances_of_send stays happened
  have other : step ∉ transport.opening := by
    intro opening
    rcases Transport.mem_opening opening with
      rfl | rfl | rfl | rfl | ⟨credentials, -, rfl⟩ <;> cases added <;> cases transfers
  refine ⟨?_, ?_⟩
  · obtain ⟨rest, rfl, -⟩ := exists_append_of_not_mem steps other
    exact leads.greeted advances
  · have said : between.events = front.flatMap Step.events := advances.events_eq
    rw [said]
    exact leads.agrees ⟨step :: back, steps.symm⟩ advances

/-- The dialogue of a mode transfers the message once. -/
theorem Settings.countP_dialogue (settings : Settings) (message : Message) :
    (settings.dialogue message).countP Event.transfers = 1 := by
  have opening : settings.preamble.countP Event.transfers = 0 := by
    rw [preamble]
    cases settings.security <;> rfl
  have recipients : ((message.recipients.map Command.recipient).map Event.said).countP
      Event.transfers = 0 := by
    simp [Event.transfers]
  rw [dialogue, List.countP_append, opening, Message.commands, List.map_append, List.map_append,
    List.countP_append, List.countP_append, recipients]
  rfl

theorem countP_send_le (settings : Settings) (server : Server) (message : Message) :
    (send settings server message).2.countP Event.transfers ≤ 1 := by
  rcases send_cases settings server message with
    ⟨-, run⟩ | ⟨host, reason, -, -, -, run⟩ | ⟨host, reason, -, -, run⟩ |
    ⟨host, transport, -, leads, -, run⟩
  · simp [run]
  · simp [run]
  · simp [run]
  · obtain ⟨happened, tail, same, front, farewell⟩ := exists_events_perform
      transport.tls.acceptsInvalid server .start (transport.opening ++ message.steps)
    have left : tail.countP Event.transfers = 0 := by
      rw [List.countP_eq_zero]
      intro event member
      simp [farewell event member, Event.transfers]
    rw [leads.events_eq] at front
    calc (send settings server message).2.countP Event.transfers
        = happened.countP Event.transfers := by
          rw [run]
          dsimp only
          rw [same, List.countP_append, List.countP_append, left]
          simp [Progress.start]
      _ ≤ (settings.dialogue message).countP Event.transfers := front.sublist.countP_le
      _ = 1 := settings.countP_dialogue message

end Run

/-- Every run of the relay reports rightly whether the message was sent, whatever the settings are
    and whatever the server does. -/
theorem isReported_send (settings : Settings) (server : Server) (message : Message) :
    IsReported settings server message where
  unconfigured := by
    intro absent
    have none : settings.host.filter (!·.isEmpty) = none := by
      rcases absent with absent | empty
      · rw [absent]
        rfl
      · rw [empty]
        rfl
    rw [send, Settings.transport_of_no_host none]
  sent := by
    intro host given filled
    exact send_eq_ok_iff_isTaken (by simp [given, filled])
  failed := by
    intro host given filled refused
    have usable : settings.host.filter (!·.isEmpty) = some host := by simp [given, filled]
    exact exists_fault usable fun sent => refused ((send_eq_ok_iff_isTaken usable).mp sent)
  complete := dialogue_of_sent
  earned := by
    intro before event happened transfers
    exact agrees_of_transfers happened transfers
  once := countP_send_le settings server message

/-- A server that refuses the second recipient does not get the message. -/
example :
    let settings : Settings := ⟨some "mail", none, none, none, none, .none, false⟩
    let replies : List Response := [.reply ⟨220, ["mail"]⟩, .reply ⟨250, ["mail"]⟩,
      .reply ⟨250, []⟩, .reply ⟨250, []⟩, .reply ⟨550, []⟩]
    let message : Message := { sender := "a@b.c", recipients := ["d@e.f", "g@h.i"], lines := [] }
    (send settings (.ofScript replies .failed) message).2 =
      [.said .hello, .said (.sender "a@b.c"), .said (.recipient "d@e.f"),
        .said (.recipient "g@h.i"), .said .quit] := by
  decide

end Gatehouse.Mail
