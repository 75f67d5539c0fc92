import Gatehouse.Proofs.App.Router
import Gatehouse.Proofs.App.State
import Gatehouse.Proofs.Oidc.Exchange
import Gatehouse.Proofs.Session.Cells
import Gatehouse.Proofs.Session.Unrelated

/-!
# Callbacks are safe

The provider is asked only when a request brings back all that belongs to a login in
progress, and a session begins only when the provider has vouched for the user.
-/

namespace Gatehouse.App

open Cookie (LastSigned)

namespace CallbackQuery

variable {pairs : List (String × String)} {query : CallbackQuery}

theorem nodup_of_repeated? {seen names : List String} (once : repeated? seen names = none) :
    names.Nodup ∧ ∀ name ∈ names, name ∉ seen := by
  induction names generalizing seen with
  | nil => exact ⟨List.nodup_nil, fun _ member => nomatch member⟩
  | cons name rest ih =>
    rw [repeated?] at once
    split at once
    · cases once
    · rename_i fresh
      have ⟨distinct, apart⟩ := ih once
      have notSeen : name ∉ seen := by simpa using fresh
      refine ⟨List.nodup_cons.mpr ⟨fun member => ?_, distinct⟩, fun other member => ?_⟩
      · exact apart name member List.mem_cons_self
      · rcases List.mem_cons.mp member with rfl | member
        · exact notSeen
        · exact fun inside => apart other member (List.mem_cons_of_mem _ inside)

/-- A query that is read has every name that counts once at most. -/
theorem count_le_one (read : ofPairs pairs = .ok query) {name : String} (counts : name ∈ names) :
    (pairs.map (·.1)).count name ≤ 1 := by
  unfold ofPairs at read
  split at read
  · cases read
  · rename_i once
    have distinct := (nodup_of_repeated? once).1
    rw [← List.count_filter (p := names.contains) (by simpa using counts)]
    exact List.nodup_iff_count.mp distinct name

/-- The pair of a name that occurs once at most. -/
theorem filter_of_lookup {name value : String} (once : (pairs.map (·.1)).count name ≤ 1)
    (found : pairs.lookup name = some value) :
    pairs.filter (·.1 == name) = [(name, value)] := by
  induction pairs with
  | nil => cases found
  | cons pair pairs ih =>
    obtain ⟨key, content⟩ := pair
    rw [List.map_cons] at once
    by_cases same : key = name
    · subst key
      rw [List.lookup_cons_self, Option.some.injEq] at found
      subst content
      rw [List.count_cons_self] at once
      have absent : pairs.filter (·.1 == name) = [] := by
        rw [List.filter_eq_nil_iff]
        intro other member hit
        have counted : 0 < (pairs.map (·.1)).count name :=
          List.count_pos_iff.mpr (List.mem_map.mpr ⟨other, member, beq_iff_eq.mp hit⟩)
        omega
      rw [List.filter_cons_of_pos (by simp), absent]
    · rw [List.count_cons_of_ne same] at once
      have passed : (name == key) = false := beq_eq_false_iff_ne.mpr (Ne.symm same)
      rw [List.lookup_cons, passed] at found
      rw [List.filter_cons_of_neg (by simpa using same)]
      exact ih once found

theorem eq_of_ofPairs (read : ofPairs pairs = .ok query) :
    query = ⟨pairs.lookup "code", pairs.lookup "state", pairs.lookup "error",
      pairs.lookup "error_description"⟩ := by
  unfold ofPairs at read
  split at read
  · cases read
  · cases read
    rfl

end CallbackQuery

theorem checkCallback_eq_ok {state : State} {provider : String} {query : CallbackQuery}
    {cookies : List String} {grant : Grant}
    (checked : checkCallback state provider query cookies = .ok grant) :
    provider = state.provider.name ∧ query.error = none ∧
      ∃ flow, state.sessions.loadFlow? cookies = some flow ∧ flow.provider = provider ∧
        query.state = some flow.csrfToken ∧ query.code = some grant.code ∧
        grant.verifier = flow.pkceVerifier := by
  unfold checkCallback at checked
  split at checked
  · cases checked
  · rename_i known
    split at checked
    · cases checked
    · cases checked
    · rename_i flow silent begun
      split at checked
      · rename_i matching
        split at checked
        · rename_i code present
          cases checked
          obtain ⟨loaded, same⟩ := Option.filter_eq_some_iff.mp begun
          refine ⟨?_, Option.map_eq_none_iff.mp silent, flow, loaded, beq_iff_eq.mp same,
            matching, present, rfl⟩
          simpa [State.knows] using known
        · cases checked
      · cases checked

/-- The pairs of the query of a request. -/
def queryPairs (request : Http.Request) : List (String × String) :=
  Url.formPairs (request.target.query.getD "")

/-- A request to the callback of a provider brings back what belongs to a login in progress: the
    provider is the registered one and reports no error, there is one token and one code, and the
    last signed cookie of a login in progress holds one at this provider with this token. -/
structure BringsBack (state : State) (request : Http.Request) (capture code : String)
    (flow : Session.Flow) : Prop where
  provider : captureText? capture = some state.provider.name
  noError : ∀ pair ∈ queryPairs request, pair.1 ≠ "error"
  oneState : (queryPairs request).filter (·.1 == "state") = [("state", flow.csrfToken)]
  oneCode : (queryPairs request).filter (·.1 == "code") = [("code", code)]
  lastFlow : ∃ value,
    LastSigned state.sessions.key (Cookie.pairs request.cookies) Session.flowName value ∧
      Session.Flow.decode? value = some flow
  begun : flow.provider = state.provider.name

/-- All that a request to the callback of a provider can bring about. -/
inductive CallbackEffect (state : State) (around : Surroundings) (request : Http.Request)
    (capture : String) : Outcome → Prop where
  /-- Nobody is asked. -/
  | refused (response : Http.Response) (quiet : response.IsQuiet) :
    CallbackEffect state around request capture ⟨response, [], false⟩
  /-- The provider does not vouch for a user. -/
  | failed {code : String} {flow : Session.Flow} {error : Oidc.LoginError}
      {exchanges : List Http.Exchange} (brings : BringsBack state request capture code flow)
      (completion : Oidc.Completion around.readers around.services state.provider code
        flow.pkceVerifier (.error error) exchanges) :
    CallbackEffect state around request capture
      ⟨(LoginFailure.login error).response, exchanges, false⟩
  | completed {code : String} {flow : Session.Flow} {user : Session.User}
      {exchanges : List Http.Exchange} (brings : BringsBack state request capture code flow)
      (completion : Oidc.Completion around.readers around.services state.provider code
        flow.pkceVerifier (.ok user) exchanges) :
    CallbackEffect state around request capture ⟨welcome state user, exchanges, false⟩

/-- A callback that brings back what belongs to the login in progress passes the check. -/
theorem checkCallback_eq_ok_of {state : State} (query : CallbackQuery) {cookies : List String}
    {flow : Session.Flow} {code : String} (silent : query.error = none)
    (loaded : state.sessions.loadFlow? cookies = some flow)
    (begun : flow.provider = state.provider.name) (matching : query.state = some flow.csrfToken)
    (present : query.code = some code) :
    checkCallback state state.provider.name query cookies = .ok ⟨code, flow.pkceVerifier⟩ := by
  have known : state.knows state.provider.name = true := beq_self_eq_true _
  have reason : query.reason? = none := by rw [CallbackQuery.reason?, silent]; rfl
  have progress : state.flowOf? state.provider.name cookies = some flow := by
    rw [State.flowOf?, loaded, Option.filter_some, if_pos (beq_iff_eq.mpr begun)]
  rw [checkCallback, known, reason, progress]
  simp only [Bool.not_true, Bool.false_eq_true, if_false, matching, if_true, present]

theorem bringsBack_of_checkCallback {state : State} {request : Http.Request}
    {capture provider : String} {query : CallbackQuery} {grant : Grant}
    (captured : captureText? capture = some provider)
    (read : CallbackQuery.ofPairs (queryPairs request) = .ok query)
    (checked : checkCallback state provider query request.cookies = .ok grant) :
    ∃ flow, BringsBack state request capture grant.code flow ∧
      grant.verifier = flow.pkceVerifier := by
  obtain ⟨known, silent, flow, loaded, begun, matching, present, verifier⟩ :=
    checkCallback_eq_ok checked
  have looked := CallbackQuery.eq_of_ofPairs read
  have once {name : String} (counts : name ∈ CallbackQuery.names) :=
    CallbackQuery.count_le_one read counts
  subst provider
  rw [looked] at silent matching present
  refine ⟨flow, ⟨captured, ?_, ?_, ?_, ?_, begun⟩, verifier⟩
  · intro pair member same
    have apart := List.lookup_eq_none_iff.mp silent pair member
    simp [same] at apart
  · exact CallbackQuery.filter_of_lookup (once (by decide)) matching
  · exact CallbackQuery.filter_of_lookup (once (by decide)) present
  · exact Session.Store.loadFlow?_eq_some loaded

theorem LoginFailure.isQuiet_response (failure : LoginFailure) : failure.response.IsQuiet := by
  cases failure with
  | unknownProvider error => exact Http.Response.isQuiet_text (by decide) _
  | login error => exact Http.Response.isQuiet_text (by decide) _
  | session error => exact Http.Response.isQuiet_text (by decide) _

theorem callbackEffect_respondToCallback (state : State) (around : Surroundings)
    (request : Http.Request) {capture provider : String}
    (captured : captureText? capture = some provider) :
    CallbackEffect state around request capture
      (respondToCallback state around provider request) := by
  unfold respondToCallback
  cases read : CallbackQuery.ofPairs (queryPairs request) with
  | error name =>
    unfold queryPairs at read
    simp only [read]
    exact .refused _ (Http.Response.isQuiet_text (by decide) _)
  | ok query =>
    have shape := read
    unfold queryPairs at shape
    simp only [shape]
    unfold callback
    cases checked : checkCallback state provider query request.cookies with
    | error error => exact .refused _ (LoginFailure.login error).isQuiet_response
    | ok grant =>
      dsimp only
      obtain ⟨flow, brings, verifier⟩ := bringsBack_of_checkCallback captured read checked
      have completion := Oidc.completion_complete around.readers around.services state.provider
        grant.code grant.verifier
      generalize Oidc.complete around.readers around.services state.provider grant.code
        grant.verifier = answer at completion ⊢
      obtain ⟨result, exchanges⟩ := answer
      rw [verifier] at completion
      cases result with
      | error error => exact .failed brings completion
      | ok user => exact .completed brings completion

theorem callbackEffect_respond (state : State) (around : Surroundings) (request : Http.Request)
    (capture : String) :
    CallbackEffect state around request capture
      (respond state around request capture .callback) := by
  rw [respond_callback, withProvider]
  cases captured : captureText? capture with
  | none => exact .refused _ (Http.Response.isQuiet_text (by decide) _)
  | some provider => exact callbackEffect_respondToCallback state around request captured

/-- What a request to the callback brings about, wherever it arrives. -/
theorem callbackEffect_serve (state : State) (entry : Entry) (tally : Tally)
    (around : Surroundings) {request : Http.Request} {captures : List String}
    (routed : Route.ofPath? request.path = some (.callback, captures)) :
    ∃ outcome, CallbackEffect state around request (captures.head?.getD "") outcome ∧
      (serve state entry tally around request).1.exchanges = outcome.exchanges ∧
      (serve state entry tally around request).1.response.setCookie =
        outcome.response.setCookie ∧
      (serve state entry tally around request).1.response.status = outcome.response.status := by
  rcases serve_cases state entry tally around request with
    ⟨response, quiet, served⟩ | ⟨route, captures, found, -, served⟩
  · exact ⟨_, .refused response quiet, by rw [served]; rfl, by rw [served]; rfl,
      by rw [served]; rfl⟩
  · rw [routed, Option.some.injEq, Prod.mk.injEq] at found
    obtain ⟨rfl, rfl⟩ := found
    refine ⟨_, callbackEffect_respond state around request _, ?_, ?_, ?_⟩
    · rw [served]
    · rw [served]
      exact Http.Response.setCookie_forMethod _ _
    · rw [served]
      exact Http.Response.status_forMethod _ _

/-- A request that brings back what belongs to a login in progress is welcomed, if the provider then
    vouches for a user, on every port where the application is served. -/
theorem response_serve_callback {state : State} (coherent : state.config.IsCoherent)
    {entry : Entry} (served : entry ≠ .metrics) (tally : Tally) (around : Surroundings)
    {request : Http.Request} {code : String} {flow : Session.Flow} {user : Session.User}
    (get : request.method = "GET") (path : request.path = "/auth/openid-connect/callback")
    (pairs : queryPairs request = [("code", code), ("state", flow.csrfToken)])
    (inProgress : state.sessions.loadFlow? request.cookies = some flow)
    (begun : flow.provider = "openid-connect") (registered : state.provider.name = "openid-connect")
    (completed : (Oidc.complete around.readers around.services state.provider code
      flow.pkceVerifier).1 = .ok user) :
    (serve state entry tally around request).1.response = welcome state user := by
  have routed : Route.ofPath? request.path = some (.callback, ["openid-connect"]) := by
    rw [path]
    decide
  have reaches : entry.reachesApplication state request = true := by
    apply reachesApplication_of_fits coherent served .callback
    rw [path, ← Http.coversSegments_iff]
    decide
  have reads : request.reads = true := by
    rw [Http.Request.reads, get]
    rfl
  have named : captureText? "openid-connect" = some state.provider.name := by
    rw [registered]
    decide +kernel
  have read : CallbackQuery.ofPairs (queryPairs request) =
      .ok ⟨some code, some flow.csrfToken, none, none⟩ := by
    rw [pairs]
    rfl
  have checked := checkCallback_eq_ok_of ⟨some code, some flow.csrfToken, none, none⟩ rfl
    inProgress (begun.trans registered.symm) rfl rfl
  rw [response_serve_of_reads tally around reaches routed reads, get, Http.Response.forMethod_get,
    respond_callback, withProvider]
  simp only [List.head?_cons, Option.getD_some, named]
  unfold respondToCallback callback
  rw [show CallbackQuery.ofPairs (Url.formPairs (request.target.query.getD "")) = _ from read]
  simp only [checked, completed]

/-- A cookie that makes a browser hold a session. -/
def IsLiveSession (reading : Cookie.Reading) : Prop :=
  reading.name = Session.sessionName ∧ "Max-Age=0" ∉ reading.attributes

/-- The signed value of a cookie, as the application will read it back, is that of a user. -/
def HoldsUser (key : Cookie.SigningKey) (text : String) (user : Session.User) : Prop :=
  ∃ signed value, Percent.decodeText? text.toList = some signed ∧
    key.verify? (.ofList signed) = some value ∧ Session.User.decode value = .ok user

/-- The only session that a completed login begins is that of its user. -/
theorem holdsUser_welcome {state : State} {user : Session.User} {header : String}
    (member : header ∈ (welcome state user).setCookie) {reading : Cookie.Reading}
    (read : Cookie.Reading.ofHeader? header = some reading) (live : IsLiveSession reading) :
    HoldsUser state.sessions.key reading.value user := by
  have inside := (List.mem_filter.mp member).1
  simp only [List.map_cons, List.map_nil, List.mem_cons, List.not_mem_nil, or_false] at inside
  rcases inside with rfl | rfl
  · obtain ⟨attributes, cut⟩ := Cookie.Reading.exists_ofHeader?_header state.sessions.clearFlow
    rw [cut, Option.some.injEq] at read
    have named : Cookie.encodePart Session.flowName = Session.sessionName := by
      rw [← live.1, ← read]
      rfl
    exact absurd named (by decide)
  · obtain ⟨attributes, cut⟩ :=
      Cookie.Reading.exists_ofHeader?_header (state.sessions.save user)
    rw [cut, Option.some.injEq] at read
    refine ⟨(state.sessions.key.sign user.encode).toList, user.encode, ?_, ?_,
      Session.User.decode_encode user⟩
    · rw [← read]
      exact Cookie.decodeText?_encodePart _
    · rw [String.ofList_toList, Cookie.SigningKey.verify?_sign]

/-- A completed login begins a session. -/
theorem exists_isLiveSession_welcome {state : State}
    (sendable : state.sessions.options.AreSendable) (user : Session.User) :
    ∃ header ∈ (welcome state user).setCookie, ∃ reading,
      Cookie.Reading.ofHeader? header = some reading ∧ IsLiveSession reading := by
  have named : Cookie.encodePart Session.sessionName = Session.sessionName := by decide +kernel
  have lasts : ((state.sessions.save user).attributes.map Text.trim).contains "Max-Age=0" =
      false := by
    rw [Cookie.SetCookie.contains_attributes]
    exact beq_eq_false_iff_ne.mpr sendable.lasts
  refine ⟨(state.sessions.save user).header, ?_, _,
    Cookie.Reading.ofHeader?_header _ sendable.whole, named, ?_⟩
  · rw [welcome, Http.Response.setCookie_setting]
    refine List.mem_filter.mpr ⟨?_, Cookie.SetCookie.isFieldValue_header sendable.field⟩
    simp
  · simpa using lasts

/-- The requests of a login: first the one for the token, with a code and a verifier, and then at
    most the one for the user of the token that came back. -/
def AsksInOrder (readers : Oidc.Readers) (services : Http.Services) (provider : Oidc.Provider)
    (code verifier : String) (exchanges : List Http.Exchange) : Prop :=
  ∃ endpoints, Oidc.Endpoints.ofProvider provider = .ok endpoints ∧
    let first := Oidc.tokenExchange services provider endpoints code verifier
    Url.formPairs first.call.body =
      [("grant_type", "authorization_code"), ("code", code), ("code_verifier", verifier),
        ("redirect_uri", provider.redirectUrl)] ∧
    (exchanges = [first] ∨
      ∃ token, readers.token first.reply = .ok token ∧ Oidc.Grants first.reply token ∧
        let second := Oidc.userExchange services first endpoints token
        second.call.authorization = ["Bearer " ++ token] ∧ exchanges = [first, second])

section completion

variable {readers : Oidc.Readers} {services : Http.Services} {provider : Oidc.Provider}
  {code verifier : String} {exchanges : List Http.Exchange}

/-- What is sent first is the request for a token. -/
theorem head_of_completion {result : Except Oidc.LoginError Session.User}
    (completion : Oidc.Completion readers services provider code verifier result exchanges) :
    ∀ first ∈ exchanges.head?, ∃ endpoints,
      first = Oidc.tokenExchange services provider endpoints code verifier := by
  intro first member
  cases completion with
  | unsent error => cases member
  | stopped usable error => exact ⟨_, (Option.some.inj member).symm⟩
  | unknown usable granted error => exact ⟨_, (Option.some.inj member).symm⟩
  | known usable granted told => exact ⟨_, (Option.some.inj member).symm⟩

theorem asksInOrder_of_completion (faithful : readers.AreFaithful)
    {result : Except Oidc.LoginError Session.User}
    (completion : Oidc.Completion readers services provider code verifier result exchanges)
    (sent : exchanges ≠ []) : AsksInOrder readers services provider code verifier exchanges := by
  cases completion with
  | unsent error => exact absurd rfl sent
  | stopped usable error => exact ⟨_, usable, Oidc.formPairs_tokenCall _ _ _ _, .inl rfl⟩
  | unknown usable granted error =>
    exact ⟨_, usable, Oidc.formPairs_tokenCall _ _ _ _,
      .inr ⟨_, granted, faithful.token granted, rfl, rfl⟩⟩
  | known usable granted told =>
    exact ⟨_, usable, Oidc.formPairs_tokenCall _ _ _ _,
      .inr ⟨_, granted, faithful.token granted, rfl, rfl⟩⟩

/-- Nothing is sent twice. -/
theorem AsksInOrder.nodup (asks : AsksInOrder readers services provider code verifier exchanges) :
    (exchanges.map (·.call)).Nodup := by
  obtain ⟨endpoints, -, -, rfl | ⟨token, -, -, -, rfl⟩⟩ := asks
  · exact List.pairwise_singleton _ _
  · refine List.nodup_cons.mpr ⟨fun same => ?_, List.pairwise_singleton _ _⟩
    exact Oidc.tokenCall_ne_userCall _ _ _ _ _ _ (List.mem_singleton.mp same)

/-- What is sent second asks for the user of the token that came back first. -/
theorem AsksInOrder.second {first second : Http.Exchange}
    (asks : AsksInOrder readers services provider code verifier [first, second]) :
    ∃ endpoints token, readers.token first.reply = .ok token ∧
      second = Oidc.userExchange services first endpoints token := by
  obtain ⟨endpoints, -, -, one | ⟨token, granted, -, -, two⟩⟩ := asks
  · cases one
  · cases two
    exact ⟨endpoints, token, granted, rfl⟩

theorem exchanges_of_completion_ok {user : Session.User}
    (completion : Oidc.Completion readers services provider code verifier (.ok user) exchanges) :
    ∃ first second token claims, exchanges = [first, second] ∧
      readers.token first.reply = .ok token ∧ readers.claims second.reply = .ok claims ∧
      user = ⟨claims.email.getD "", provider.name⟩ := by
  cases completion with
  | known usable granted told => exact ⟨_, _, _, _, rfl, granted, told, rfl⟩

end completion

/-- Safety of the callback.  The provider is asked only when the request brings back all that
    belongs to a login in progress, in order and never twice; and a session begins only when both
    replies were of use, for the address that the provider tells. -/
theorem serve_callback_safe (state : State) (entry : Entry) (tally : Tally)
    (around : Surroundings) (faithful : around.readers.AreFaithful) {request : Http.Request}
    {capture : String}
    (target : Http.pathSegments request.path = ["", "auth", capture, "callback"]) :
    let outcome := (serve state entry tally around request).1
    (outcome.exchanges ≠ [] →
      ∃ code flow, BringsBack state request capture code flow ∧
        AsksInOrder around.readers around.services state.provider code flow.pkceVerifier
          outcome.exchanges ∧
        (outcome.exchanges.map (·.call)).Nodup) ∧
    ∀ header ∈ outcome.response.setCookie, ∀ reading,
      Cookie.Reading.ofHeader? header = some reading → IsLiveSession reading →
        ∃ first second token claims, outcome.exchanges = [first, second] ∧
          around.readers.token first.reply = .ok token ∧ Oidc.Grants first.reply token ∧
          around.readers.claims second.reply = .ok claims ∧
          Oidc.Tells second.reply claims.email ∧
          HoldsUser state.sessions.key reading.value
            ⟨claims.email.getD "", state.provider.name⟩ := by
  obtain ⟨outcome, effect, exchanged, set, -⟩ :=
    callbackEffect_serve state entry tally around (Route.ofPath?_callback target)
  dsimp only
  rw [exchanged, set]
  cases effect with
  | refused response quiet =>
    refine ⟨fun sent => absurd rfl sent, fun header member => ?_⟩
    rw [quiet.setCookie] at member
    cases member
  | failed brings completion =>
    refine ⟨fun sent => ?_, fun header member => ?_⟩
    · have asks := asksInOrder_of_completion faithful completion sent
      exact ⟨_, _, brings, asks, asks.nodup⟩
    · rw [(LoginFailure.login _).isQuiet_response.setCookie] at member
      cases member
  | completed brings completion =>
    refine ⟨fun sent => ?_, fun header member reading read live => ?_⟩
    · have asks := asksInOrder_of_completion faithful completion sent
      exact ⟨_, _, brings, asks, asks.nodup⟩
    · have holds := holdsUser_welcome member read live
      obtain ⟨first, second, token, claims, whole, granted, told, rfl⟩ :=
        exchanges_of_completion_ok completion
      exact ⟨first, second, token, claims, whole, granted, faithful.token granted, told,
        faithful.claims told, holds⟩

/-- A login in progress at the provider. -/
def begunFlow : Session.Flow := ⟨"openid-connect", "t", "v"⟩

/-- A request to the callback, while it is in progress. -/
def callbackRequest (state : State) (pairs : List (String × String)) : Http.Request :=
  ⟨"GET", ⟨none, none, "/auth/openid-connect/callback", some (Url.formText pairs)⟩,
    [state.sessions.flowHeader begunFlow]⟩

theorem queryPairs_callbackRequest (state : State) (pairs : List (String × String)) :
    queryPairs (callbackRequest state pairs) = pairs :=
  Url.formPairs_formText pairs

/-- The provider that answers tells an address when it is asked for a user. -/
theorem tells_answeringServices (first : Http.Exchange) (endpoints : Oidc.Endpoints)
    (token : String) :
    Oidc.Tells (Oidc.userExchange answeringServices first endpoints token).reply
      (some "alice@example.com") := by
  have shown : (Oidc.document? (Utf8.octets
      "\x7b\"sub\":\"1\",\"email\":\"alice@example.com\",\"email_verified\":true\x7d")).bind
        (Oidc.textOf? "email") = some "alice@example.com" := by decide +kernel
  obtain ⟨members, read, held⟩ := Option.bind_eq_some_iff.mp shown
  exact ⟨_, _, members, rfl, read, Oidc.lookup_of_textOf? held⟩

/-- What is told by that provider when it is asked second is this address. -/
theorem AsksInOrder.email_answering {readers : Oidc.Readers} {provider : Oidc.Provider}
    {code verifier : String} {first second : Http.Exchange} {email : Option String}
    (asks : AsksInOrder readers answeringServices provider code verifier [first, second])
    (tells : Oidc.Tells second.reply email) : email = some "alice@example.com" := by
  obtain ⟨endpoints, token, -, rfl⟩ := asks.second
  exact tells.unique (tells_answeringServices _ endpoints token)

/-- A request that brings back two tokens asks nobody, and one that brings back the token of the
    login in progress begins a session for the address that the provider tells. -/
theorem serve_callback_safe_answered :
    ∃ state : State, state.IsMadeBy localVariables ∧
      (serve state .main .zero .answering
        (callbackRequest state [("code", "c"), ("state", "t"), ("state", "t")])).1.exchanges = [] ∧
      ∃ header ∈ (serve state .main .zero .answering
        (callbackRequest state [("code", "c"), ("state", "t")])).1.response.setCookie,
        ∃ reading, Cookie.Reading.ofHeader? header = some reading ∧ IsLiveSession reading ∧
          HoldsUser state.sessions.key reading.value ⟨"alice@example.com", "openid-connect"⟩ := by
  obtain ⟨state, made, shown⟩ := exists_isMadeBy_of_shown localVariables
    (fun state => (state.provider.name, state.config.basePath,
      (Oidc.complete .typed answeringServices state.provider "c" "v").1.toOption))
    ("openid-connect", "/app", some ⟨"alice@example.com", "openid-connect"⟩) (by decide +kernel)
  simp only [Prod.mk.injEq] at shown
  obtain ⟨registered, basePath, completed⟩ := shown
  have faithful : Surroundings.answering.readers.AreFaithful := Oidc.Readers.areFaithful_typed
  have target (pairs : List (String × String)) :
      Http.pathSegments (callbackRequest state pairs).path =
        ["", "auth", "openid-connect", "callback"] :=
    (by decide : Http.pathSegments "/auth/openid-connect/callback" = _)
  have inProgress : state.sessions.loadFlow? [state.sessions.flowHeader begunFlow] =
      some begunFlow := state.sessions.loadFlow?_flowHeader begunFlow
  have sendable : state.sessions.options.AreSendable := made.areSendable (by
    rw [basePath]
    exact List.all_iff_forall_prop.mp (by decide))
  refine ⟨state, made, Decidable.byContradiction fun sent => ?_, ?_⟩
  · obtain ⟨code, flow, brings, -⟩ :=
      (serve_callback_safe state .main .zero .answering faithful (target _)).1 sent
    have once := brings.oneState
    rw [queryPairs_callbackRequest] at once
    have size : 2 = 1 := congrArg List.length once
    cases size
  · have welcomed : (serve state .main .zero .answering
        (callbackRequest state [("code", "c"), ("state", "t")])).1.response =
          welcome state ⟨"alice@example.com", "openid-connect"⟩ :=
      response_serve_callback made.coherent (by decide) .zero .answering rfl rfl
        (queryPairs_callbackRequest state _) inProgress rfl registered
        (eq_ok_of_toOption completed)
    obtain ⟨header, member, reading, read, live⟩ :=
      exists_isLiveSession_welcome sendable ⟨"alice@example.com", "openid-connect"⟩
    rw [← welcomed] at member
    obtain ⟨safe, begins⟩ :=
      serve_callback_safe state .main .zero .answering faithful
        (target [("code", "c"), ("state", "t")])
    obtain ⟨first, second, token, claims, whole, -, -, -, tells, holds⟩ :=
      begins header member reading read live
    refine ⟨header, member, reading, read, live, ?_⟩
    obtain ⟨_, _, -, asks, -⟩ := safe (by rw [whole]; exact List.cons_ne_nil _ _)
    rw [whole] at asks
    rw [asks.email_answering tells, registered] at holds
    exact holds

end Gatehouse.App
