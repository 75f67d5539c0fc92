import Gatehouse.Mail.Relay
import Gatehouse.Proofs.Mail.Dialogue

/-!
# The runs of the relay

Which dialogue the settings lead to, and how a run can end before the dialogue begins.
-/

namespace Gatehouse.Mail

/-- The commands that hand over a message. -/
def Message.commands (message : Message) : List Command :=
  [.sender message.sender] ++ message.recipients.map .recipient ++
    [.data, .message message.lines]

theorem Message.steps_eq (message : Message) : message.steps = message.commands.map .say := by
  simp [steps, commands]

theorem Message.isMail_of_mem_commands {message : Message} {command : Command}
    (member : command ∈ message.commands) : command.isMail = true := by
  simp only [commands, List.mem_append, List.mem_map, List.mem_cons, List.not_mem_nil,
    or_false] at member
  rcases member with (rfl | ⟨address, -, rfl⟩) | rfl | rfl <;> rfl

/-- The transports of the three modes, to a host. -/
inductive Settings.Leads (settings : Settings) (prepare : TlsParameters → Except String Unit)
    (host : String) : Transport → Prop where
  | plain (mode : settings.security = .none) :
    settings.Leads prepare host ⟨host, settings.serverPort, .none, none⟩
  | upgraded (mode : settings.security = .startTls)
    (prepared : prepare ⟨host, settings.acceptInvalidCertificates⟩ = .ok ()) :
    settings.Leads prepare host
      ⟨host, settings.serverPort, .required ⟨host, settings.acceptInvalidCertificates⟩, none⟩
  | wrapped (mode : settings.security = .tls)
    (prepared : prepare ⟨host, settings.acceptInvalidCertificates⟩ = .ok ()) :
    settings.Leads prepare host
      ⟨host, settings.serverPort, .wrapper ⟨host, settings.acceptInvalidCertificates⟩,
        some ⟨settings.username, settings.password.getD ""⟩⟩

section Transport

variable {settings : Settings} {prepare : TlsParameters → Except String Unit} {host : String}
  {transport : Transport}

theorem Settings.transport_of_no_host (absent : settings.host.filter (!·.isEmpty) = none) :
    settings.transport prepare = .error (.notConfigured "SMTP_HOST") := by
  simp only [Settings.transport, absent]

/-- With a host there is a transport, unless the parameters of a secured connection cannot be
    used. -/
theorem Settings.transport_cases (prepare : TlsParameters → Except String Unit)
    (given : settings.host.filter (!·.isEmpty) = some host) :
    (∃ transport, settings.transport prepare = .ok transport ∧
      settings.Leads prepare host transport) ∨
    ∃ reason, settings.transport prepare = .error (.tls reason) ∧ settings.security ≠ .none ∧
      prepare ⟨host, settings.acceptInvalidCertificates⟩ = .error reason := by
  simp only [Settings.transport, given]
  cases mode : settings.security with
  | none => exact .inl ⟨_, rfl, .plain mode⟩
  | startTls =>
    cases prepared : prepare ⟨host, settings.acceptInvalidCertificates⟩ with
    | ok done => exact .inl ⟨_, rfl, .upgraded mode prepared⟩
    | error reason => exact .inr ⟨reason, rfl, by simp, rfl⟩
  | tls =>
    cases prepared : prepare ⟨host, settings.acceptInvalidCertificates⟩ with
    | ok done => exact .inl ⟨_, rfl, .wrapped mode prepared⟩
    | error reason => exact .inr ⟨reason, rfl, by simp, rfl⟩

theorem Settings.Leads.transport_eq (leads : settings.Leads prepare host transport)
    (given : settings.host.filter (!·.isEmpty) = some host) :
    settings.transport prepare = .ok transport := by
  cases leads with
  | plain mode => simp only [Settings.transport, given, mode]
  | upgraded mode prepared => simp only [Settings.transport, given, mode, prepared]
  | wrapped mode prepared => simp only [Settings.transport, given, mode, prepared]

theorem Settings.Leads.place (leads : settings.Leads prepare host transport) :
    transport.host = host ∧ transport.port = settings.serverPort := by
  cases leads <;> exact ⟨rfl, rfl⟩

end Transport

/-- How a run of the relay ends: without a transport, without a connection, or with a dialogue. -/
theorem send_cases (settings : Settings) (server : Server) (message : Message) :
    (settings.host.filter (!·.isEmpty) = none ∧
      send settings server message = (.error (.notConfigured "SMTP_HOST"), [])) ∨
    (∃ host reason, settings.host.filter (!·.isEmpty) = some host ∧ settings.security ≠ .none ∧
      server.prepare ⟨host, settings.acceptInvalidCertificates⟩ = .error reason ∧
      send settings server message = (.error (.tls reason), [])) ∨
    (∃ host reason, settings.host.filter (!·.isEmpty) = some host ∧
      server.connect host settings.serverPort = .error reason ∧
      send settings server message =
        (.error (.transport (DialogueFault.unreachable reason).message), [])) ∨
    ∃ host transport, settings.host.filter (!·.isEmpty) = some host ∧
      settings.Leads server.prepare host transport ∧
      server.connect host settings.serverPort = .ok () ∧
      let run := perform transport.tls.acceptsInvalid server .start
        (transport.opening ++ message.steps)
      send settings server message =
        (run.1.mapError fun fault => .transport fault.message, run.2) := by
  cases given : settings.host.filter (!·.isEmpty) with
  | none =>
    left
    exact ⟨rfl, by rw [send, Settings.transport_of_no_host given]⟩
  | some host =>
    right
    rcases Settings.transport_cases server.prepare given with
      ⟨transport, made, leads⟩ | ⟨reason, made, mode, failed⟩
    · right
      rw [send, made]
      dsimp only
      rw [leads.place.1, leads.place.2]
      cases reached : server.connect host settings.serverPort with
      | error reason => exact .inl ⟨host, reason, rfl, reached, rfl⟩
      | ok done => exact .inr ⟨host, transport, rfl, leads, reached, rfl⟩
    · left
      exact ⟨host, reason, rfl, mode, failed, by rw [send, made]⟩

/-- A message is sent exactly if there is a transport and a connection, and every step goes well. -/
theorem send_eq_ok_iff {settings : Settings} {server : Server} {message : Message} :
    (send settings server message).1 = .ok () ↔
      ∃ host transport last, settings.host.filter (!·.isEmpty) = some host ∧
        settings.Leads server.prepare host transport ∧
        server.connect host settings.serverPort = .ok () ∧
        Advances transport.tls.acceptsInvalid server .start
          (transport.opening ++ message.steps) last ∧
        (send settings server message).2 = last.events ++ [.said .quit] := by
  constructor
  · intro sent
    rcases send_cases settings server message with
      ⟨-, run⟩ | ⟨host, reason, -, -, -, run⟩ | ⟨host, reason, -, -, run⟩ |
      ⟨host, transport, given, leads, reached, run⟩
    · simp [run] at sent
    · simp [run] at sent
    · simp [run] at sent
    · have performed : (perform transport.tls.acceptsInvalid server .start
          (transport.opening ++ message.steps)).1 = .ok () := by
        rw [run] at sent
        cases ended : (perform transport.tls.acceptsInvalid server .start
          (transport.opening ++ message.steps)).1 with
        | ok done => rfl
        | error fault => simp [ended, Except.mapError] at sent
      obtain ⟨last, advances⟩ := perform_eq_ok_iff.mp performed
      exact ⟨host, transport, last, given, leads, reached, advances,
        by rw [run, advances.perform_eq]⟩
  · rintro ⟨host, transport, last, given, leads, reached, advances, -⟩
    rw [send, leads.transport_eq given]
    dsimp only
    rw [leads.place.1, leads.place.2, reached]
    dsimp only
    rw [advances.perform_eq]
    rfl

theorem Message.exists_of_mem_steps {message : Message} {step : Step}
    (member : step ∈ message.steps) : ∃ command, step = .say command ∧ command.isMail = true := by
  rw [steps_eq, List.mem_map] at member
  obtain ⟨command, member, rfl⟩ := member
  exact ⟨command, rfl, isMail_of_mem_commands member⟩

theorem Transport.mem_opening {transport : Transport} {step : Step}
    (member : step ∈ transport.opening) :
    step = .greeting ∨ step = .hello ∨ step = .startTls ∨ step = .secure ∨
      ∃ credentials, transport.credentials = some credentials ∧
        step = .login credentials.user credentials.password := by
  rw [opening, List.mem_append] at member
  rcases member with tls | login
  · cases mode : transport.tls <;> simp [mode, Tls.opening] at tls <;> tauto
  · cases given : transport.credentials with
    | none => simp [given] at login
    | some credentials =>
      rw [given, List.mem_singleton] at login
      simp [login]

/-- Whatever happens on the connection, the farewell apart, belongs to a step of the dialogue that
    the settings lead to, and all steps in front of it have gone well. -/
theorem exists_advances_of_send {settings : Settings} {server : Server} {message : Message}
    {before : List Event} {event : Event} (stays : event ≠ .said .quit)
    (happened : before ++ [event] <+: (send settings server message).2) :
    ∃ host transport front step back between, settings.Leads server.prepare host transport ∧
      transport.opening ++ message.steps = front ++ step :: back ∧ step.events = [event] ∧
      Advances transport.tls.acceptsInvalid server .start front between ∧
      between.events = before ∧
      (event = .secured → ∃ next, Goes transport.tls.acceptsInvalid server between step next) := by
  have nothing (none : (send settings server message).2 = []) : False := by
    rw [none] at happened
    simp at happened
  rcases send_cases settings server message with
    ⟨-, sent⟩ | ⟨host, reason, -, -, -, sent⟩ | ⟨host, reason, -, -, sent⟩ |
    ⟨host, transport, -, leads, -, sent⟩
  · exact (nothing (by rw [sent])).elim
  · exact (nothing (by rw [sent])).elim
  · exact (nothing (by rw [sent])).elim
  · rw [sent] at happened
    obtain ⟨after, happened⟩ := happened
    have performed : (perform transport.tls.acceptsInvalid server .start
        (transport.opening ++ message.steps)).2 =
          Progress.start.events ++ (before ++ event :: after) := by
      simpa [Progress.start] using happened.symm
    obtain ⟨front, step, back, between, steps, added, advances, same, well⟩ :=
      exists_advances_of_perform stays performed
    exact ⟨host, transport, front, step, back, between, leads, steps, added, advances, same, well⟩

end Gatehouse.Mail
