import Gatehouse.Proofs.App.Counted
import Gatehouse.Proofs.App.Models
import Gatehouse.Proofs.Settings.Ports

/-!
# Texts carried in JSON

The application hands out a text of its configuration, and the reason why a mail was not sent.
Both stand in JSON bodies, from which a reader takes exactly the text that was put in.
-/

namespace Gatehouse

namespace Json

/-- A string, or null in its absence. -/
def Value.ofText? : Option String → Value
  | some s => .text s
  | none => .null

/-- A body is the JSON text of a value and of nothing else. -/
def Tells (body : String) (value : Value) : Prop :=
  read (readValue maxDepth) (Utf8.octets body) = .ok value

theorem tells_writeOptionalText (text : Option String) :
    Tells (writeOptionalText text) (.ofText? text) := by
  cases text with
  | none =>
    unfold Tells
    rfl
  | some s =>
    have whole := readValue_writeText maxDepth (List.forall_mem_nil (isSpace · = true)) s []
    rw [List.nil_append, List.append_nil] at whole
    exact read_of_ok whole

/-- A body tells no more than one value. -/
theorem Tells.eq {body : String} {value other : Value} (tells : Tells body value)
    (tells' : Tells body other) : value = other :=
  Except.ok.inj (tells.symm.trans tells')

end Json

namespace Settings

/-- The text of a known name, where it can be read, is the value that its variables give last. -/
theorem eq_getLast?_of_text? {env : Variables} {name : String} (known : name ∈ knownNames)
    {value : Option String} (read : text? env name = .ok value) :
    value = (valuesOf env name).getLast? := by
  unfold text? at read
  split at read
  · rename_i unset
    cases read
    symm
    rw [List.getLast?_eq_none_iff, List.eq_nil_iff_forall_not_mem]
    intro given member
    obtain ⟨spelled, inside, lower⟩ := mem_valuesOf.mp member
    have plain := isPlainName_of_known known lower
    obtain ⟨held, holds⟩ := exists_held?_of_mem inside (by rw [place_of_isPlainName plain, lower])
    rw [unset] at holds
    cases holds
  · rename_i s holds
    cases read
    exact (getLast?_valuesOf_of_held? known holds).symm
  · cases read
  · cases read

theorem Config.userDefined_of_ofRaw {raw : Raw} {config : Config}
    (accepted : ofRaw raw = .ok config) : config.userDefined = raw.userDefined := by
  unfold ofRaw at accepted
  obtain ⟨given, -, accepted⟩ := exists_of_bind_eq_ok accepted
  obtain ⟨secretKey, -, accepted⟩ := exists_of_bind_eq_ok accepted
  obtain ⟨redirectPath, -, accepted⟩ := exists_of_bind_eq_ok accepted
  dsimp only at accepted
  split at accepted
  · split at accepted
    · cases accepted
    · cases accepted
      rfl
  · cases accepted

/-- The text that is handed out again is what its variable gives last. -/
theorem Config.userDefined_of_ofVariables {env : Variables} {config : Config}
    (accepted : ofVariables env = .ok config) :
    config.userDefined = (valuesOf env "app_user_defined_config").getLast? := by
  obtain ⟨raw, read, accepted⟩ := exists_of_bind_eq_ok accepted
  have known : "app_user_defined_config" ∈ knownNames := by
    rw [knownNames_eq]
    simp
  rw [userDefined_of_ofRaw accepted]
  exact eq_getLast?_of_text? known (Raw.isReadFrom_of_ofVariables read).userDefined

end Settings

namespace Mail

/-- The kinds of mail errors, each of which is made from a reason. -/
def MailError.kinds : List (String → MailError) :=
  [.notConfigured, .invalidMessage, .tls, .transport]

theorem MailError.exists_kind (error : MailError) :
    ∃ kind ∈ kinds, ∃ reason, error = kind reason := by
  cases error with
  | notConfigured setting => exact ⟨.notConfigured, by simp [kinds], setting, rfl⟩
  | invalidMessage reason => exact ⟨.invalidMessage, by simp [kinds], reason, rfl⟩
  | tls reason => exact ⟨.tls, by simp [kinds], reason, rfl⟩
  | transport reason => exact ⟨.transport, by simp [kinds], reason, rfl⟩

/-- Errors of one kind are worded differently if their reasons are different. -/
theorem MailError.message_inj {kind : String → MailError} (member : kind ∈ kinds)
    {reason other : String} (same : (kind reason).message = (kind other).message) :
    reason = other := by
  simp only [kinds, List.mem_cons, List.not_mem_nil, or_false] at member
  rcases member with rfl | rfl | rfl | rfl
  · have front := (String.append_left_inj " is not set").mp same
    exact (String.append_right_inj _).mp front
  · exact (String.append_right_inj _).mp same
  · exact (String.append_right_inj _).mp same
  · exact (String.append_right_inj _).mp same

end Mail

namespace Http.Response

theorem body_forMethod {response : Response} {method : String} (head : method ≠ "HEAD")
    (bad : response.status = 500) : (response.forMethod method).body = response.body := by
  rw [forMethod, if_neg]
  rintro (same | ⟨-, -, good⟩)
  · exact head same
  · omega

end Http.Response

namespace App

open Settings (Variables valuesOf)

variable {state : State} {entry : Entry}

/-- A request at a path that counts is answered by the route of this path. -/
theorem response_serve_of_counted (coherent : state.config.IsCoherent) (served : entry ≠ .metrics)
    (tally : Tally) (around : Surroundings) {request : Http.Request} (route : Route)
    (counted : route.path ∈ countedPaths) (path : request.path = route.path) :
    (serve state entry tally around request).1.response =
      (respond state around request "" route).response.forMethod request.method := by
  have reaches : entry.reachesApplication state request = true :=
    reachesApplication_of_mem_countedPaths coherent served (path ▸ counted)
  rw [outcome_serve_of_reaches tally around reaches, result_dispatch, path,
    Route.ofPath?_path counted]
  simp only [Route.anyMethod_of_mem_countedPaths counted, Bool.true_or, if_true]
  rfl

/-- What the mail relay says to the test message. -/
def State.mailResult (state : State) (around : Surroundings) : Except Mail.MailError Unit :=
  around.deliver (state.config.mail.relay state.config.skipVerify) Mail.testMessage

theorem response_sendMail {around : Surroundings} {request : Http.Request} {capture : String}
    {error : Mail.MailError} (fails : state.mailResult around = .error error) :
    (respond state around request capture .sendMail).response =
      serviceFailure error.message := by
  rw [State.mailResult] at fails
  rw [respond_sendMail, fails]
  rfl

/-- The answers in JSON carry their texts exactly.  The text of the configuration is read from its
    body as the last value of its variable, and the body is null just when no variable of this name
    is set.  A failure of the mail relay is read as an object of which its wording is the only
    member, and failures of one kind for different reasons have different bodies. -/
theorem answers_carry_texts {env : Variables} (made : state.IsMadeBy env)
    (served : entry ≠ .metrics) (tally : Tally) :
    (∀ (around : Surroundings) (request : Http.Request),
      request.path = "/env/user-defined-config" →
      ∃ body, (serve state entry tally around request).1.response =
          (Http.Response.json 200 body).forMethod request.method ∧
        Json.Tells body (.ofText? (valuesOf env "app_user_defined_config").getLast?) ∧
        (Json.Tells body .null ↔ valuesOf env "app_user_defined_config" = [])) ∧
    (∀ (around : Surroundings) (request : Http.Request) (error : Mail.MailError),
      request.path = "/send_mail" → state.mailResult around = .error error →
      ∃ response : Http.Response, response.Reports error.message ∧
        (serve state entry tally around request).1.response =
          response.forMethod request.method) ∧
    ∀ (around around' : Surroundings) (request : Http.Request),
      ∀ kind ∈ Mail.MailError.kinds, ∀ reason reason' : String,
      request.path = "/send_mail" → request.method ≠ "HEAD" →
      state.mailResult around = .error (kind reason) →
      state.mailResult around' = .error (kind reason') →
      (serve state entry tally around request).1.response.body =
        (serve state entry tally around' request).1.response.body →
      reason = reason' := by
  have coherent := made.coherent
  refine ⟨?_, ?_, ?_⟩
  · intro around request path
    obtain ⟨config, accepted, built⟩ := made
    have same : state.config = config := (State.parts_of_ofConfig built).1
    have tells := Json.tells_writeOptionalText state.config.userDefined
    rw [same, Settings.Config.userDefined_of_ofVariables accepted] at tells
    refine ⟨Json.writeOptionalText (valuesOf env "app_user_defined_config").getLast?, ?_, tells, ?_⟩
    · rw [response_serve_of_counted coherent served tally around .userDefinedConfig (by decide) path,
        ← Settings.Config.userDefined_of_ofVariables accepted, ← same]
      rfl
    · constructor
      · intro null
        have absent := tells.eq null
        cases last : (valuesOf env "app_user_defined_config").getLast? with
        | none => exact List.getLast?_eq_none_iff.mp last
        | some s =>
          rw [last] at absent
          cases absent
      · intro unset
        rw [unset] at tells ⊢
        exact tells
  · intro around request error path fails
    refine ⟨serviceFailure error.message, reports_serviceFailure error.message, ?_⟩
    rw [response_serve_of_counted coherent served tally around .sendMail (by decide) path,
      response_sendMail fails]
  · intro around around' request kind member reason reason' path head fails fails' bodies
    rw [response_serve_of_counted coherent served tally around .sendMail (by decide) path,
      response_serve_of_counted coherent served tally around' .sendMail (by decide) path,
      response_sendMail fails, response_sendMail fails',
      Http.Response.body_forMethod head rfl, Http.Response.body_forMethod head rfl] at bodies
    have told := (reports_serviceFailure (kind reason).message).body
    rw [bodies, (reports_serviceFailure (kind reason').message).body] at told
    have message : (kind reason').message = (kind reason).message := by simpa using told
    exact (Mail.MailError.message_inj member message).symm

/-- The variables of an application that hands out a text which no JSON string has as it is. -/
def carriedVariables : Variables :=
  localVariables ++ [("App_User_Defined_Config", "\"\\\n\x07😀")]

/-- A request without cookies. -/
def plainRequest (path : String) : Http.Request :=
  ⟨"GET", ⟨none, none, path, none⟩, []⟩

theorem answers_carry_texts_escaped :
    ∃ state : State, state.IsMadeBy carriedVariables ∧
      (∃ body, Json.Tells body (.text "\"\\\n\x07😀") ∧
        (serve state .main .zero .silent (plainRequest "/env/user-defined-config")).1.response =
          .json 200 body) ∧
      (serve state .main .zero .silent (plainRequest "/send_mail")).1.response.Reports
        "mail relay is not configured: SMTP_HOST is not set" := by
  obtain ⟨state, made, -⟩ := exists_isMadeBy_of_shown carriedVariables (fun _ => ()) ()
    (by decide +kernel)
  have served : Entry.main ≠ .metrics := by decide
  obtain ⟨defined, failed, -⟩ := answers_carry_texts made served .zero
  obtain ⟨body, answer, tells, -⟩ :=
    defined .silent (plainRequest "/env/user-defined-config") rfl
  have last : (valuesOf carriedVariables "app_user_defined_config").getLast? =
      some "\"\\\n\x07😀" := by decide +kernel
  rw [last] at tells
  obtain ⟨response, reports, refusal⟩ :=
    failed .silent (plainRequest "/send_mail") (.notConfigured "SMTP_HOST") rfl rfl
  refine ⟨state, made, ⟨body, tells, answer⟩, ?_⟩
  rw [refusal]
  exact reports

end App

end Gatehouse
