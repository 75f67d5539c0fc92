import Gatehouse.Mail.Message
import Gatehouse.Proofs.Mail.Relay

/-!
# What the relay keeps to itself

Before the connection is secured in the way that the settings ask for, the relay says neither
a name and a password nor anything of the message, whatever the server does.
-/

namespace Gatehouse.Mail

/-- An event without the name and the password that it may show. -/
def Event.redacted : Event → Event
  | .said (.login _ _) => .said (.login "" "")
  | event => event

/-- Two servers that go on alike, whatever name and password a login shows: such as two that follow
    one script. -/
structure Server.Alike (server other : Server) : Prop where
  prepare : server.prepare = other.prepare
  connect : server.connect = other.connect
  respond : ∀ {events events' : List Event},
    events.map Event.redacted = events'.map Event.redacted →
    server.respond events = other.respond events'
  handshake : ∀ {events events' : List Event},
    events.map Event.redacted = events'.map Event.redacted →
    server.handshake events = other.handshake events'

theorem Event.countP_isSaid_redacted (events : List Event) :
    (events.map redacted).countP isSaid = events.countP isSaid := by
  have same : isSaid ∘ redacted = isSaid := by
    funext event
    match event with
    | .said (.login _ _) => rfl
    | .said .hello | .said .startTls | .said .data | .said .quit => rfl
    | .said (.sender _) | .said (.recipient _) | .said (.message _) => rfl
    | .secured => rfl
  rw [List.countP_map, same]

theorem Server.alike_ofScript (replies : List Response) (handshake : Handshake) :
    (ofScript replies handshake).Alike (ofScript replies handshake) where
  prepare := rfl
  connect := rfl
  respond := by
    intro events events' same
    simp only [ofScript]
    rw [← Event.countP_isSaid_redacted events, same, Event.countP_isSaid_redacted]
  handshake := fun _ => rfl

/-- What has to be so when a connection is secured: in the mode that upgrades the connection the
    server has offered that and agreed to it, in the other mode nothing has been said, and the
    certificate will do. -/
def Settings.SecuredBy (settings : Settings) (server : Server) (before : List Event) : Prop :=
  (server.handshake before).Secures settings.acceptInvalidCertificates ∧
    match settings.security with
    | .none => False
    | .startTls =>
      before = [.said .hello, .said .startTls] ∧
        (∃ reply, server.respond [.said .hello] = .reply reply ∧
          reply.lists "STARTTLS" = true) ∧
        (server.respond before).IsPositive
    | .tls => before = []

/-- A run of the relay that gives nothing away. -/
structure IsDiscreet (settings : Settings) (server : Server) (message : Message) : Prop where
  /-- A login takes place in the one mode for it, and on a secured connection. -/
  login : Throughout
    (fun before event => ∀ user password, event = .said (.login user password) →
      settings.security = .tls ∧ .secured ∈ before)
    (send settings server message).2
  /-- In the modes that secure the connection nothing of the message is said before. -/
  mail : settings.security ≠ .none →
    Throughout
      (fun before event => ∀ command, event = .said command → command.isMail = true →
        .secured ∈ before)
      (send settings server message).2
  /-- The connection is never secured in another way than the settings ask for. -/
  secured : Throughout (fun before event => event = .secured → settings.SecuredBy server before)
    (send settings server message).2
  /-- Where it should be secured and is not, the message is not sent, and nothing is said that
      gives anything away. -/
  unsecured : settings.security ≠ .none → .secured ∉ (send settings server message).2 →
    (∃ fault, (send settings server message).1 = .error fault) ∧
      ∀ command, .said command ∈ (send settings server message).2 →
        command = .hello ∨ command = .startTls ∨ command = .quit
  /-- Nothing but a login depends on the name and the password. -/
  alike : ∀ (user domain password : Option String) (other : Server), server.Alike other →
    let run := send { settings with user, domain, password } other message
    run.1 = (send settings server message).1 ∧
      run.2.map Event.redacted = (send settings server message).2.map Event.redacted

theorem Advances.secured_mem {acceptInvalid : Bool} {server : Server} {progress last : Progress}
    {steps : List Step} (advances : Advances acceptInvalid server progress steps last)
    (member : .secure ∈ steps) : .secured ∈ last.events := by
  rw [advances.events_eq, List.mem_append, List.mem_flatMap]
  exact .inr ⟨.secure, member, by simp [Step.events]⟩

theorem Settings.Leads.secure_mem_opening {settings : Settings} {host : String}
    {prepare : TlsParameters → Except String Unit} {transport : Transport}
    (leads : settings.Leads prepare host transport) (mode : settings.security ≠ .none) :
    .secure ∈ transport.opening := by
  cases leads with
  | plain none => exact absurd none mode
  | upgraded _ _ => simp [Transport.opening, Tls.opening]
  | wrapped _ _ => simp [Transport.opening, Tls.opening]

section Run

variable {settings : Settings} {server : Server} {message : Message} {before : List Event}

/-- A login is only said on a connection that was secured in front of it. -/
theorem secured_mem_of_login {user password : String}
    (happened : before ++ [.said (.login user password)] <+: (send settings server message).2) :
    settings.security = .tls ∧ .secured ∈ before := by
  obtain ⟨host, transport, front, step, back, between, leads, steps, added, advances, rfl, -⟩ :=
    exists_advances_of_send (by simp) happened
  have notMail : step ∉ message.steps := by
    intro member
    obtain ⟨command, rfl, mail⟩ := Message.exists_of_mem_steps member
    cases added
    cases mail
  have member : step ∈ transport.opening ++ message.steps := by simp [steps]
  have credentials : transport.credentials ≠ none := by
    rcases Transport.mem_opening ((List.mem_append.mp member).resolve_right notMail) with
      rfl | rfl | rfl | rfl | ⟨credentials, given, -⟩
    · cases added
    · cases added
    · cases added
    · cases added
    · simp [given]
  cases leads with
  | plain mode => exact absurd rfl credentials
  | upgraded mode prepared => exact absurd rfl credentials
  | wrapped mode prepared =>
    have other : step ∉ [Step.secure] := by
      intro member
      rw [List.mem_singleton.mp member] at added
      cases added
    have passed : [Step.secure] ++ ([.greeting, .hello,
        .login settings.username (settings.password.getD "")] ++ message.steps) =
        front ++ step :: back := steps
    obtain ⟨rest, rfl, -⟩ := exists_append_of_not_mem passed other
    exact ⟨mode, advances.secured_mem (by simp)⟩

/-- In the modes that secure the connection they do so in front of the message. -/
theorem secured_mem_of_mail (mode : settings.security ≠ .none) {command : Command}
    (mail : command.isMail = true)
    (happened : before ++ [.said command] <+: (send settings server message).2) :
    .secured ∈ before := by
  obtain ⟨host, transport, front, step, back, between, leads, steps, added, advances, rfl, -⟩ :=
    exists_advances_of_send (by cases command <;> simp_all [Command.isMail]) happened
  have other : step ∉ transport.opening := by
    intro opening
    rcases Transport.mem_opening opening with
      rfl | rfl | rfl | rfl | ⟨credentials, -, rfl⟩ <;> cases added <;> cases mail
  obtain ⟨rest, rfl, -⟩ := exists_append_of_not_mem steps other
  exact advances.secured_mem (List.mem_append_left _ (leads.secure_mem_opening mode))

theorem secure_not_mem_steps (message : Message) : .secure ∉ message.steps := by
  intro member
  obtain ⟨command, same, -⟩ := Message.exists_of_mem_steps member
  cases same

/-- The connection is only secured as the settings ask for. -/
theorem securedBy_of_secured
    (happened : before ++ [.secured] <+: (send settings server message).2) :
    settings.SecuredBy server before := by
  obtain ⟨host, transport, front, step, back, between, leads, steps, added, advances, rfl, well⟩ :=
    exists_advances_of_send (by simp) happened
  have secure : step = .secure := by
    cases step <;> cases added
    rfl
  subst secure
  obtain ⟨next, goes⟩ := well rfl
  have agrees : (server.handshake between.events).Secures transport.tls.acceptsInvalid := by
    cases goes with
    | secure agrees => exact agrees
  have once := secure_not_mem_steps message
  cases leads with
  | plain mode =>
    have member : Step.secure ∈ [Step.greeting, .hello] ++ message.steps := by
      change [Step.greeting, .hello] ++ message.steps = _ at steps
      simp [steps]
    simp [once] at member
  | upgraded mode prepared =>
    have split : [Step.greeting, .hello, .startTls] ++ .secure :: ([.hello] ++ message.steps) =
        front ++ .secure :: back := steps
    obtain ⟨rfl, -⟩ := (List.append_cons_inj_of_notMem (by simp) (by simp [once])).mp split
    refine ⟨agrees, ?_⟩
    rw [mode]
    have said : between.events = [.said .hello, .said .startTls] := advances.events_eq
    have agreed := advances.agrees (by simp) [.said .hello] (.said .startTls) List.prefix_rfl
    exact ⟨said, advances.welcome.2.offered_startTls, by rw [said]; exact agreed.isPositive⟩
  | wrapped mode prepared =>
    have split : [] ++ Step.secure :: ([.greeting, .hello,
        .login settings.username (settings.password.getD "")] ++ message.steps) =
        front ++ .secure :: back := steps
    obtain ⟨rfl, -⟩ := (List.append_cons_inj_of_notMem (by simp) (by simp [once])).mp split
    refine ⟨agrees, ?_⟩
    rw [mode]
    cases advances
    rfl

/-- Without a secured connection nothing is said that gives anything away. -/
theorem harmless_of_not_secured (mode : settings.security ≠ .none)
    (plain : .secured ∉ (send settings server message).2) {command : Command}
    (said : .said command ∈ (send settings server message).2) :
    command = .hello ∨ command = .startTls ∨ command = .quit := by
  obtain ⟨before, after, happened⟩ := List.append_of_mem said
  have front : before ++ [.said command] <+: (send settings server message).2 :=
    ⟨after, by rw [happened, List.append_assoc]; rfl⟩
  have earlier (secured : .secured ∈ before) : False :=
    plain (happened ▸ List.mem_append_left _ secured)
  cases command with
  | hello => exact .inl rfl
  | startTls => exact .inr (.inl rfl)
  | quit => exact .inr (.inr rfl)
  | login user password => exact (earlier (secured_mem_of_login front).2).elim
  | sender address => exact (earlier (secured_mem_of_mail mode rfl front)).elim
  | recipient address => exact (earlier (secured_mem_of_mail mode rfl front)).elim
  | data => exact (earlier (secured_mem_of_mail mode rfl front)).elim
  | message lines => exact (earlier (secured_mem_of_mail mode rfl front)).elim

/-- A message that is sent in a mode that secures the connection is sent on a secured one. -/
theorem secured_mem_of_sent (mode : settings.security ≠ .none)
    (sent : (send settings server message).1 = .ok ()) :
    .secured ∈ (send settings server message).2 := by
  obtain ⟨host, transport, last, -, leads, -, advances, happened⟩ := send_eq_ok_iff.mp sent
  rw [happened]
  refine List.mem_append_left _ (advances.secured_mem (List.mem_append_left _ ?_))
  exact leads.secure_mem_opening mode

end Run

/-- Two dialogues that have come equally far, but for what a login shows. -/
structure Progress.Matches (progress other : Progress) : Prop where
  events : progress.events.map Event.redacted = other.events.map Event.redacted
  capabilities : progress.capabilities = other.capabilities

/-- A step without the name and the password of a login. -/
def Step.redacted : Step → Step
  | .login _ _ => .login "" ""
  | step => step

section Alike

variable {acceptInvalid : Bool} {server other : Server} {progress progress' : Progress}
  {step step' : Step} {steps steps' : List Step}

theorem listen_alike (alike : server.Alike other) {events events' : List Event}
    (same : events.map Event.redacted = events'.map Event.redacted) :
    listen server events = listen other events' := by
  rw [listen, listen, alike.respond same]

theorem Progress.Matches.say (same : progress.Matches progress') {command command' : Command}
    (commands : (Event.said command).redacted = (Event.said command').redacted) :
    (progress.say command).Matches (progress'.say command') := by
  refine ⟨?_, same.capabilities⟩
  simp [Progress.say, same.events, commands]

/-- The same step, but for what a login shows, ends in the same way. -/
theorem Step.perform_alike (acceptInvalid : Bool) (alike : server.Alike other)
    (same : progress.Matches progress')
    (shown : step.redacted = step'.redacted) :
    (step.perform acceptInvalid server progress).1 =
        (step'.perform acceptInvalid other progress').1 ∧
      (step.perform acceptInvalid server progress).2.Matches
        (step'.perform acceptInvalid other progress').2 ∧
      step.quitsOnFault progress = step'.quitsOnFault progress' := by
  have heard {command command' : Command}
      (commands : (Event.said command).redacted = (Event.said command').redacted) :
      listen server (progress.say command).events = listen other (progress'.say command').events :=
    listen_alike alike (same.say commands).events
  cases step with
  | greeting =>
    cases step' <;> cases shown
    refine ⟨?_, same, rfl⟩
    simp only [perform, listen_alike alike same.events]
  | hello =>
    cases step' <;> cases shown
    refine ⟨?_, ?_, rfl⟩
    · simp only [perform, heard rfl]
      split
      · rfl
      · split <;> rfl
    · have said : (progress.say .hello).Matches (progress'.say .hello) := same.say rfl
      simp only [perform, heard rfl]
      split
      · exact said
      · split
        · exact ⟨said.events, rfl⟩
        · exact said
  | startTls =>
    cases step' <;> cases shown
    simp only [perform, quitsOnFault, same.capabilities, and_true]
    split
    · exact ⟨by rw [heard rfl], same.say rfl⟩
    · exact ⟨rfl, same⟩
  | secure =>
    cases step' <;> cases shown
    have secured : (progress.events ++ [Event.secured]).map Event.redacted =
        (progress'.events ++ [Event.secured]).map Event.redacted := by
      simp [same.events]
    simp only [perform, alike.handshake same.events]
    split
    · exact ⟨rfl, ⟨secured, same.capabilities⟩, rfl⟩
    · split
      · exact ⟨rfl, ⟨secured, same.capabilities⟩, rfl⟩
      · exact ⟨rfl, same, rfl⟩
    · exact ⟨rfl, same, rfl⟩
  | login user password =>
    cases step' <;> cases shown
    rename_i user' password'
    simp only [perform, same.capabilities]
    split
    · have commands : (Event.said (.login user password)).redacted =
          (Event.said (.login user' password')).redacted := rfl
      rw [heard commands]
      split
      · exact ⟨rfl, same.say commands, rfl⟩
      · exact ⟨rfl, same.say commands, rfl⟩
    · exact ⟨rfl, same, rfl⟩
  | say command =>
    cases step' <;> cases shown
    exact ⟨by simp only [perform, heard rfl], same.say rfl, rfl⟩

theorem perform_alike (acceptInvalid : Bool) (alike : server.Alike other)
    (same : progress.Matches progress')
    (shown : steps.map Step.redacted = steps'.map Step.redacted) :
    (perform acceptInvalid server progress steps).1 =
        (perform acceptInvalid other progress' steps').1 ∧
      (perform acceptInvalid server progress steps).2.map Event.redacted =
        (perform acceptInvalid other progress' steps').2.map Event.redacted := by
  induction steps generalizing progress progress' steps' with
  | nil =>
    cases List.map_eq_nil_iff.mp shown.symm
    exact ⟨rfl, (same.say rfl).events⟩
  | cons step steps ih =>
    obtain ⟨step', rest', rfl, first, later⟩ := List.map_eq_cons_iff.mp shown.symm
    obtain ⟨ended, matched, quits⟩ := Step.perform_alike acceptInvalid alike same first.symm
    rw [perform, perform]
    generalize step.perform acceptInvalid server progress = stepped at ended matched
    generalize step'.perform acceptInvalid other progress' = stepped' at ended matched
    obtain ⟨result, next⟩ := stepped
    obtain ⟨result', next'⟩ := stepped'
    dsimp only at ended matched
    subst ended
    cases result with
    | ok done => exact ih matched later.symm
    | error fault =>
      dsimp only
      rw [quits]
      cases step'.quitsOnFault progress' with
      | true => exact ⟨rfl, (matched.say rfl).events⟩
      | false => exact ⟨rfl, matched.events⟩

/-- The transports of settings with another name and password differ in the login alone. -/
theorem Settings.transport_alike (settings : Settings) (user domain password : Option String)
    (prepare : TlsParameters → Except String Unit) :
    let settings' := { settings with user, domain, password }
    (∃ fault, settings.transport prepare = .error fault ∧
      settings'.transport prepare = .error fault) ∨
    ∃ transport transport', settings.transport prepare = .ok transport ∧
      settings'.transport prepare = .ok transport' ∧ transport'.host = transport.host ∧
      transport'.port = transport.port ∧ transport'.tls = transport.tls ∧
      transport'.opening.map Step.redacted = transport.opening.map Step.redacted := by
  intro settings'
  cases given : settings.host.filter (!·.isEmpty) with
  | none =>
    left
    have given' : settings'.host.filter (!·.isEmpty) = none := given
    exact ⟨_, transport_of_no_host given, transport_of_no_host given'⟩
  | some host =>
    have given' : settings'.host.filter (!·.isEmpty) = some host := given
    rcases Settings.transport_cases prepare given with
      ⟨transport, made, leads⟩ | ⟨reason, made, mode, failed⟩
    · right
      cases leads with
      | plain mode =>
        exact ⟨_, _, made, Leads.transport_eq (.plain mode) given', rfl, rfl, rfl, rfl⟩
      | upgraded mode prepared =>
        exact ⟨_, _, made, Leads.transport_eq (.upgraded mode prepared) given', rfl, rfl, rfl, rfl⟩
      | wrapped mode prepared =>
        exact ⟨_, _, made, Leads.transport_eq (.wrapped mode prepared) given', rfl, rfl, rfl, rfl⟩
    · left
      rcases Settings.transport_cases prepare given' with
        ⟨transport, made', leads⟩ | ⟨other, made', mode', failed'⟩
      · cases leads with
        | plain plain => exact absurd plain mode
        | upgraded _ prepared => cases prepared.symm.trans failed
        | wrapped _ prepared => cases prepared.symm.trans failed
      · cases failed'.symm.trans failed
        exact ⟨_, made, made'⟩

theorem send_alike {settings : Settings} {message : Message} (alike : server.Alike other)
    (user domain password : Option String) :
    let run := send { settings with user, domain, password } other message
    run.1 = (send settings server message).1 ∧
      run.2.map Event.redacted = (send settings server message).2.map Event.redacted := by
  intro run
  have transports := settings.transport_alike user domain password server.prepare
  rw [alike.prepare] at transports
  rcases transports with ⟨fault, made, made'⟩ |
    ⟨transport, transport', made, made', host, port, tls, opening⟩
  · simp only [run, send, alike.prepare, made, made', and_self]
  · simp only [run, send, alike.prepare, made, made', host, port, tls, alike.connect]
    cases other.connect transport.host transport.port with
    | error reason => exact ⟨rfl, rfl⟩
    | ok done =>
      have shown : (transport.opening ++ message.steps).map Step.redacted =
          (transport'.opening ++ message.steps).map Step.redacted := by
        rw [List.map_append, List.map_append, opening]
      have same : Progress.start.Matches .start := ⟨rfl, rfl⟩
      obtain ⟨ended, happened⟩ := perform_alike transport.tls.acceptsInvalid alike same shown
      exact ⟨by rw [ended], happened.symm⟩

end Alike

/-- No run of the relay gives anything away, whatever the settings are and the server does. -/
theorem isDiscreet_send (settings : Settings) (server : Server) (message : Message) :
    IsDiscreet settings server message where
  login := by
    intro before event happened user password said
    exact secured_mem_of_login (said ▸ happened)
  mail := by
    intro mode before event happened command said mail
    exact secured_mem_of_mail mode mail (said ▸ happened)
  secured := by
    intro before event happened secured
    exact securedBy_of_secured (secured ▸ happened)
  unsecured := by
    intro mode plain
    refine ⟨?_, fun command said => harmless_of_not_secured mode plain said⟩
    cases ended : (send settings server message).1 with
    | ok done => exact absurd (secured_mem_of_sent mode ended) plain
    | error fault => exact ⟨fault, rfl⟩
  alike := fun user domain password other alike => send_alike alike user domain password

/-- A server that does not offer to upgrade the connection does not get the message. -/
example :
    let settings : Settings := ⟨some "mail", none, none, none, none, .startTls, true⟩
    let server : Server := .ofScript [.reply ⟨220, ["mail"]⟩, .reply ⟨250, ["mail"]⟩] .trusted
    (send settings server testMessage).2 = [.said .hello] := by
  decide

end Gatehouse.Mail
