import Gatehouse.Oidc.Readers
import Gatehouse.Proofs.Url.Form

/-!
# What a login asks the provider

Every way in which a login can be completed or fail, with the requests that were sent:
nothing after a fault, the token before the user, and none of them twice.  What is taken
from the replies is what they say, where the readers of the replies are faithful.
-/

namespace Gatehouse.Oidc

/-- The first request of a login with its reply. -/
def tokenExchange (services : Http.Services) (provider : Provider) (endpoints : Endpoints)
    (code verifier : String) : Http.Exchange :=
  let call := tokenCall provider endpoints.token code verifier
  ⟨call, services [] call⟩

/-- The request for the user of a token, after an earlier one, with its reply. -/
def userExchange (services : Http.Services) (earlier : Http.Exchange) (endpoints : Endpoints)
    (token : String) : Http.Exchange :=
  let call := userCall endpoints.userInfo token
  ⟨call, services [earlier.call] call⟩

/-- How a login ends, and what was exchanged with the provider until then. -/
inductive Completion (readers : Readers) (services : Http.Services) (provider : Provider)
    (code verifier : String) : Except LoginError Session.User → List Http.Exchange → Prop where
  /-- Nothing is sent. -/
  | unsent (error : LoginError) :
    Completion readers services provider code verifier (.error error) []
  /-- The reply to the first request is of no use, or the second one cannot be sent. -/
  | stopped {endpoints : Endpoints} (usable : Endpoints.ofProvider provider = .ok endpoints)
      (error : LoginError) :
      Completion readers services provider code verifier (.error error)
        [tokenExchange services provider endpoints code verifier]
  /-- There is a token, but the reply to the question for the user is of no use. -/
  | unknown {endpoints : Endpoints} {token : String}
      (usable : Endpoints.ofProvider provider = .ok endpoints)
      (granted : readers.token (tokenExchange services provider endpoints code verifier).reply =
        .ok token)
      (error : LoginError) :
      Completion readers services provider code verifier (.error error)
        [tokenExchange services provider endpoints code verifier,
          userExchange services (tokenExchange services provider endpoints code verifier)
            endpoints token]
  /-- Both replies are of use. -/
  | known {endpoints : Endpoints} {token : String} {claims : UserClaims}
      (usable : Endpoints.ofProvider provider = .ok endpoints)
      (granted : readers.token (tokenExchange services provider endpoints code verifier).reply =
        .ok token)
      (told : readers.claims (userExchange services
        (tokenExchange services provider endpoints code verifier) endpoints token).reply =
          .ok claims) :
      Completion readers services provider code verifier
        (.ok ⟨claims.email.getD "", provider.name⟩)
        [tokenExchange services provider endpoints code verifier,
          userExchange services (tokenExchange services provider endpoints code verifier)
            endpoints token]

theorem parse_authorize_of_ofProvider {provider : Provider} {endpoints : Endpoints}
    (usable : Endpoints.ofProvider provider = .ok endpoints) :
    Url.parse provider.authorizeUrl = .ok endpoints.authorize := by
  have parsed {what text : String} {url : Url} (read : settingUrl what text = .ok url) :
      Url.parse text = .ok url := by
    unfold settingUrl at read
    split at read
    · rename_i found
      cases read
      exact found
    · cases read
  simp only [Endpoints.ofProvider, bind, Except.bind] at usable
  split at usable
  · cases usable
  · split at usable
    · cases usable
    · rename_i authorize read
      split at usable
      · cases usable
      · split at usable
        · cases usable
        · cases usable
          exact parsed read

/-- A request is sent once or not at all. -/
theorem send_cases (services : Http.Services) (earlier : List Http.Call) (url : Url)
    (call : Http.Call) :
    (∃ fault, send services earlier url call = (.error fault, [])) ∨
      send services earlier url call =
        (.ok (services earlier call), [⟨call, services earlier call⟩]) := by
  unfold send
  split
  · exact .inl ⟨_, rfl⟩
  · split
    · exact .inr rfl
    · exact .inl ⟨_, rfl⟩

theorem exchangeCode_cases (readers : Readers) (services : Http.Services) (provider : Provider)
    (endpoints : Endpoints) (code verifier : String) :
    (∃ fault, exchangeCode readers services provider endpoints code verifier =
      (.error fault, [])) ∨
      exchangeCode readers services provider endpoints code verifier =
        (readers.token (tokenExchange services provider endpoints code verifier).reply,
          [tokenExchange services provider endpoints code verifier]) := by
  unfold exchangeCode
  rcases send_cases services [] endpoints.token
      (tokenCall provider endpoints.token code verifier) with ⟨fault, sent⟩ | sent
  · exact .inl ⟨fault, by rw [sent]; rfl⟩
  · exact .inr (by rw [sent]; rfl)

theorem askUser_cases (readers : Readers) (services : Http.Services) (earlier : Http.Exchange)
    (endpoints : Endpoints) (token : String) :
    (∃ fault, askUser readers services [earlier.call] endpoints token = (.error fault, [])) ∨
      askUser readers services [earlier.call] endpoints token =
        (readers.claims (userExchange services earlier endpoints token).reply,
          [userExchange services earlier endpoints token]) := by
  unfold askUser
  split
  · rcases send_cases services [earlier.call] endpoints.userInfo
        (userCall endpoints.userInfo token) with ⟨fault, sent⟩ | sent
    · exact .inl ⟨fault, by rw [sent]; rfl⟩
    · exact .inr (by rw [sent]; rfl)
  · exact .inl ⟨_, rfl⟩

theorem completion_complete (readers : Readers) (services : Http.Services)
    (provider : Provider) (code verifier : String) :
    Completion readers services provider code verifier
      (complete readers services provider code verifier).1
      (complete readers services provider code verifier).2 := by
  unfold complete
  cases usable : Endpoints.ofProvider provider with
  | error error => exact .unsent error
  | ok endpoints =>
    rcases exchangeCode_cases readers services provider endpoints code verifier with
      ⟨fault, exchanged⟩ | exchanged
    · simp only [exchanged]
      exact .unsent _
    · cases granted :
          readers.token (tokenExchange services provider endpoints code verifier).reply with
      | error fault =>
        simp only [exchanged, granted]
        exact .stopped usable _
      | ok token =>
        rcases askUser_cases readers services
            (tokenExchange services provider endpoints code verifier) endpoints token with
          ⟨fault, asked⟩ | asked
        · simp only [exchanged, granted, List.map_cons, List.map_nil, asked]
          exact .stopped usable _
        · cases told : readers.claims (userExchange services
              (tokenExchange services provider endpoints code verifier) endpoints token).reply with
          | error fault =>
            simp only [exchanged, granted, List.map_cons, List.map_nil, asked, told]
            exact .unknown usable granted _
          | ok claims =>
            simp only [exchanged, granted, List.map_cons, List.map_nil, asked, told]
            exact .known usable granted told

/-- A reply is a good answer with a document that has a text under a name, or that has nothing
    there or null. -/
def Says (reply : Http.Reply) (name : String) (text : Option String) : Prop :=
  ∃ contentType body members, reply = .answered 200 contentType body ∧
    document? body = some members ∧
    match text with
    | some s => members.lookup name = some (.text s)
    | none => members.lookup name = none ∨ members.lookup name = some .null

/-- A reply says one thing under a name at most. -/
theorem Says.unique {reply : Http.Reply} {name : String} {text other : Option String}
    (said : Says reply name text) (also : Says reply name other) : text = other := by
  obtain ⟨contentType, body, members, rfl, read, held⟩ := said
  obtain ⟨_, _, members', same, read', held'⟩ := also
  cases same
  cases read.symm.trans read'
  cases text with
  | none =>
    cases other with
    | none => rfl
    | some s => rcases held with absent | null <;> simp_all
  | some s =>
    cases other with
    | none => rcases held' with absent | null <;> simp_all
    | some s' =>
      cases held.symm.trans held'
      rfl

/-- A reply grants a token. -/
def Grants (reply : Http.Reply) (token : String) : Prop :=
  Says reply "access_token" (some token)

/-- A reply tells the address of a user, or that there is none. -/
def Tells (reply : Http.Reply) (email : Option String) : Prop :=
  Says reply "email" email

/-- Readers that take from a reply nothing but what it says. -/
structure Readers.AreFaithful (readers : Readers) : Prop where
  token : ∀ {reply token}, readers.token reply = .ok token → Grants reply token
  claims : ∀ {reply claims}, readers.claims reply = .ok claims → Tells reply claims.email

theorem lookup_of_textOf? {name s : String} {members : List (String × Json.Value)}
    (found : textOf? name members = some s) : members.lookup name = some (.text s) := by
  unfold textOf? at found
  split at found
  · rename_i text held
    cases found
    exact held
  · cases found

/-- A text that is not found in a document with its types is left out or null. -/
theorem lookup_of_textOf?_none {name : String} {types : List (String × ClaimType)}
    {members : List (String × Json.Value)} (typed : areTyped types members = true)
    (text : (name, ClaimType.text) ∈ types) (absent : textOf? name members = none) :
    members.lookup name = none ∨ members.lookup name = some .null := by
  have fits := List.all_eq_true.mp typed _ text
  unfold textOf? at absent
  dsimp only at fits
  cases held : members.lookup name with
  | none => exact .inl rfl
  | some value =>
    rw [held] at fits absent
    cases value with
    | null => exact .inr rfl
    | text s => cases absent
    | bool | number | list | object => cases fits

theorem grants_of_readToken {reply : Http.Reply} {token : String}
    (granted : readToken reply = .ok token) : Grants reply token := by
  cases reply with
  | unreachable => cases granted
  | dropped => cases granted
  | answered status contentType body =>
    simp only [readToken] at granted
    split at granted
    · cases granted
    · rename_i good
      split at granted
      · cases granted
      · split at granted
        · cases granted
        · split at granted
          · rename_i found
            cases granted
            obtain ⟨members, read, found⟩ := Option.bind_eq_some_iff.mp found
            obtain ⟨named, held, found⟩ := Option.bind_eq_some_iff.mp found
            obtain ⟨kind, -, found⟩ := Option.bind_eq_some_iff.mp found
            split at found
            · cases found
              exact ⟨contentType, body, members, by rw [Decidable.not_not.mp good], read,
                lookup_of_textOf? held⟩
            · cases found
          · cases granted

theorem tells_of_readClaims {reply : Http.Reply} {claims : UserClaims}
    (told : readClaims reply = .ok claims) : Tells reply claims.email := by
  cases reply with
  | unreachable => cases told
  | dropped => cases told
  | answered status contentType body =>
    simp only [readClaims] at told
    split at told
    · cases told
    · rename_i good
      split at told
      · cases told
      · split at told
        · cases told
        · split at told
          · rename_i found
            cases told
            obtain ⟨members, read, found⟩ := Option.bind_eq_some_iff.mp found
            obtain ⟨subject, -, found⟩ := Option.bind_eq_some_iff.mp found
            split at found
            · rename_i typed
              cases found
              refine ⟨contentType, body, members, by rw [Decidable.not_not.mp good], read, ?_⟩
              cases email : textOf? "email" members with
              | none => exact lookup_of_textOf?_none typed (by decide) email
              | some s => exact lookup_of_textOf? email
            · cases found
          · cases told

/-- Readers of documents by their types are faithful. -/
theorem Readers.areFaithful_typed : Readers.typed.AreFaithful :=
  ⟨grants_of_readToken, tells_of_readClaims⟩

/-- The form of the first request has the code and the verifier, and is read back as it is. -/
theorem formPairs_tokenCall (provider : Provider) (endpoint : Url) (code verifier : String) :
    Url.formPairs (tokenCall provider endpoint code verifier).body =
      [("grant_type", "authorization_code"), ("code", code), ("code_verifier", verifier),
        ("redirect_uri", provider.redirectUrl)] :=
  Url.formPairs_formText _

theorem tokenCall_ne_userCall (provider : Provider) (endpoint other : Url)
    (code verifier token : String) :
    tokenCall provider endpoint code verifier ≠ userCall other token :=
  fun same => absurd (congrArg Http.Call.method same) (by decide : "POST" ≠ "GET")

end Gatehouse.Oidc
