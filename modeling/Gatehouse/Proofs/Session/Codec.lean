import Gatehouse.Proofs.Json.Objects
import Gatehouse.Proofs.Text.Canonical
import Gatehouse.Session.Flow

/-!
# Session values read back

A user and a login in progress come back from the values that they are written as.  Neither
value reads as the other kind, and the empty value of a removed cookie reads as neither.  A
value that is accepted is the only spelling of the JSON text in it.
-/

namespace Gatehouse.Session

theorem octets_wrap (json : String) :
    Utf8.octets (wrap json) = Base64.letterOctets (Utf8.octets json) := by
  rw [wrap, Utf8.octets_ofList, Base64.letterOctets]

theorem unwrap_wrap {α : Type} (reader : Json.Reader α) (json : String) :
    unwrap reader (wrap json) =
      match Json.read reader (Utf8.octets json) with
      | .error fault => .error fault.message
      | .ok a => .ok a := by
  have letters := Base64.decode_letterOctets (Utf8.octets json)
  cases read : Json.read reader (Utf8.octets json) with
  | error fault => simp only [unwrap, octets_wrap, letters, read]
  | ok a => simp only [unwrap, octets_wrap, letters, read]

/-- The texts of a login in progress by the names of its members. -/
def Flow.members (flow : Flow) : List (String × String) :=
  [("provider", flow.provider), ("csrf_token", flow.csrfToken),
    ("pkce_verifier", flow.pkceVerifier)]

theorem Flow.json_eq (flow : Flow) :
    flow.json =
      Json.writeObject (flow.members.map fun (name, s) => (name, Json.writeText s)) := rfl

theorem userShape_fills_user (user : User) :
    userShape.Fills 126 ⟨none, none⟩ user.members ⟨some user.email, some user.provider⟩ :=
  .known rfl rfl (Json.Member.text_fill _ _ _ _ _ _ _)
    (.known rfl rfl (Json.Member.text_fill _ _ _ _ _ _ _) (.done _))

theorem userShape_fills_flow (flow : Flow) :
    userShape.Fills 126 ⟨none, none⟩ flow.members ⟨none, some flow.provider⟩ :=
  .known rfl rfl (Json.Member.text_fill _ _ _ _ _ _ _) (.unknown rfl (.unknown rfl (.done _)))

theorem flowShape_fills_flow (flow : Flow) :
    flowShape.Fills 126 ⟨none, none, none⟩ flow.members
      ⟨some flow.provider, some flow.csrfToken, some flow.pkceVerifier⟩ :=
  .known rfl rfl (Json.Member.text_fill _ _ _ _ _ _ _)
    (.known rfl rfl (Json.Member.text_fill _ _ _ _ _ _ _)
      (.known rfl rfl (Json.Member.text_fill _ _ _ _ _ _ _) (.done _)))

theorem flowShape_fills_user (user : User) :
    flowShape.Fills 126 ⟨none, none, none⟩ user.members ⟨some user.provider, none, none⟩ :=
  .unknown rfl (.known rfl rfl (Json.Member.text_fill _ _ _ _ _ _ _) (.done _))

theorem User.reader_json (user : User) : User.reader (Utf8.octets user.json) = .ok (user, []) := by
  rw [User.reader, User.json, Json.maxDepth,
    Json.Shape.read_writeObject userShape 126 (userShape_fills_user user)]
  rfl

/-- The members of a login in progress do not make a user: there is no address. -/
theorem User.reader_flow (flow : Flow) :
    User.reader (Utf8.octets flow.json) = .error ⟨.missingMember "email", 0⟩ := by
  rw [User.reader, Flow.json_eq, Json.maxDepth,
    Json.Shape.read_writeObject userShape 126 (userShape_fills_flow flow)]
  rfl

theorem Flow.reader_json (flow : Flow) : Flow.reader (Utf8.octets flow.json) = .ok (flow, []) := by
  rw [Flow.reader, Flow.json_eq, Json.maxDepth,
    Json.Shape.read_writeObject flowShape 126 (flowShape_fills_flow flow)]
  rfl

/-- The members of a user do not make a login in progress: there is no token. -/
theorem Flow.reader_user (user : User) :
    Flow.reader (Utf8.octets user.json) = .error ⟨.missingMember "csrf_token", 0⟩ := by
  rw [Flow.reader, User.json, Json.maxDepth,
    Json.Shape.read_writeObject flowShape 126 (flowShape_fills_user user)]
  rfl

/-- A user comes back from the session value. -/
theorem User.decode_encode (user : User) : User.decode user.encode = .ok user := by
  rw [User.decode, User.encode, unwrap_wrap, Json.read_of_ok (User.reader_json user)]
  rfl

/-- The value of a login in progress is no session value. -/
theorem User.decode_flow (flow : Flow) :
    ∃ reason, User.decode flow.encode = .error (.decode reason) := by
  refine ⟨(Json.Stop.inText ⟨.missingMember "email", 0⟩ (Utf8.octets flow.json)).message, ?_⟩
  rw [User.decode, Flow.encode, unwrap_wrap, Json.read_of_error (User.reader_flow flow)]
  rfl

theorem User.decode_empty : User.decode "" =
    .error (.decode "EOF while parsing a value at line 1 column 0") := rfl

/-- A login in progress comes back from its cookie value. -/
theorem Flow.decode?_encode (flow : Flow) : Flow.decode? flow.encode = some flow := by
  rw [Flow.decode?, Flow.encode, unwrap_wrap, Json.read_of_ok (Flow.reader_json flow)]
  rfl

/-- A session value is no login in progress. -/
theorem Flow.decode?_user (user : User) : Flow.decode? user.encode = none := by
  rw [Flow.decode?, User.encode, unwrap_wrap, Json.read_of_error (Flow.reader_user user)]
  rfl

theorem Flow.decode?_empty : Flow.decode? "" = none := rfl

/-- A value holds a record exactly if it is the written form of a JSON text of the record. -/
theorem unwrap_eq_ok_iff {α : Type} {reader : Json.Reader α} {value : String} {a : α} :
    unwrap reader value = .ok a ↔
      ∃ octets, value = .ofList (Base64.encode Base64.urlSafe octets) ∧
        Json.read reader octets = .ok a := by
  simp only [← Base64.decode_octets_eq_ok_iff]
  unfold unwrap
  cases Base64.decode (Utf8.octets value) with
  | error fault => simp
  | ok octets => cases read : Json.read reader octets <;> simp [read]

theorem User.decode_eq_ok_iff {value : String} {user : User} :
    User.decode value = .ok user ↔
      ∃ octets, value = .ofList (Base64.encode Base64.urlSafe octets) ∧
        Json.read User.reader octets = .ok user := by
  rw [← unwrap_eq_ok_iff, User.decode]
  cases unwrap User.reader value with
  | error reason => exact ⟨fun accepted => (nomatch accepted), fun accepted => (nomatch accepted)⟩
  | ok other =>
    constructor
    · intro accepted
      cases accepted
      rfl
    · intro accepted
      cases accepted
      rfl

/-- What is not accepted is a matter of its form and of nothing else. -/
theorem User.decode_cases (value : String) :
    (∃ user, User.decode value = .ok user) ∨
      ∃ reason, User.decode value = .error (.decode reason) := by
  unfold User.decode
  cases unwrap User.reader value with
  | error reason => exact .inr ⟨reason, rfl⟩
  | ok user => exact .inl ⟨user, rfl⟩

theorem isUrlSafe_of_mem_wrap (json : String) :
    ∀ c ∈ (wrap json).toList, Base64.isUrlSafe c = true := by
  rw [wrap, String.toList_ofList]
  exact Base64.isUrlSafe_of_mem_encode _

/-- The codec of sessions is exact and leaves no choice.  Every user has a value of letters that
    mean nothing in a cookie, and comes back from it.  Every value that is accepted is what is
    written for the octets that are read of it, and no other value is read as these octets; and
    every value in another form is refused. -/
theorem User.codec_exact :
    (∀ user : User, (∀ c ∈ user.encode.toList, Base64.isUrlSafe c = true) ∧
      User.decode user.encode = .ok user) ∧
    (∀ (value : String) (user : User), User.decode value = .ok user →
      ∃ octets, Json.read User.reader octets = .ok user ∧
        value = .ofList (Base64.encode Base64.urlSafe octets) ∧
        ∀ other, Base64.decode (Utf8.octets other) = .ok octets ↔ other = value) ∧
    ∀ value : String, ¬Base64.IsCanonical value.toList →
      ∃ reason, User.decode value = .error (.decode reason) := by
  refine ⟨fun user => ?_, fun value user accepted => ?_, fun value other => ?_⟩
  · exact ⟨isUrlSafe_of_mem_wrap user.json, User.decode_encode user⟩
  · obtain ⟨octets, rfl, read⟩ := User.decode_eq_ok_iff.mp accepted
    exact ⟨octets, read, rfl, fun other => Base64.decode_octets_eq_ok_iff⟩
  · rcases User.decode_cases value with ⟨user, accepted⟩ | refused
    · obtain ⟨octets, rfl, -⟩ := User.decode_eq_ok_iff.mp accepted
      rw [String.toList_ofList] at other
      exact absurd (Base64.isCanonical_encode octets) other
    · exact refused

/-- A value need not be the one that is written for its user: here the members are in a list. -/
example : (User.decode "WyJhIiwiYiJd").toOption = some ⟨"a", "b"⟩ := by
  decide +kernel

end Gatehouse.Session
