import Gatehouse.Proofs.Authz.Client
import Gatehouse.Proofs.Authz.StorePath

/-!
# Clients and their stores

A client asks for the models of one store by writing the identifier of the store into an address.
When the URL that is asked for belongs to this store, and when it does not.
-/

namespace Gatehouse

namespace Http

/-- What stays of an authority whose user and password have become a field of the request. -/
def withoutCredentials (authority : Url.Authority) : Url.Authority :=
  match Percent.decodeText? authority.username.toList with
  | none => authority
  | some user =>
    let password := authority.password.bind fun s => Percent.decodeText? s.toList
    if user.isEmpty && password.isNone then authority
    else { authority with username := "", password := none }

theorem takeCredentials_fst (url : Url) :
    (takeCredentials url).1 = { url with authority := url.authority.map withoutCredentials } := by
  obtain ⟨scheme, authority, path, query, fragment⟩ := url
  cases authority with
  | none => rfl
  | some authority =>
    simp only [takeCredentials, withoutCredentials, Option.map_some]
    cases Percent.decodeText? authority.username.toList with
    | none => rfl
    | some user =>
      dsimp only
      split <;> rfl

/-- A place keeps its host and port without the user and the password. -/
theorem origin_takeCredentials (url : Url) : (takeCredentials url).1.origin = url.origin := by
  have kept (authority : Url.Authority) :
      (withoutCredentials authority).host = authority.host ∧
        (withoutCredentials authority).port = authority.port := by
    unfold withoutCredentials
    split
    · exact ⟨rfl, rfl⟩
    · dsimp only
      split <;> exact ⟨rfl, rfl⟩
  rw [takeCredentials_fst]
  cases authority : url.authority with
  | none => simp [Url.origin, Url.host?, authority]
  | some authority => simp [Url.origin, Url.host?, *]

/-- A request reads a URL of the web, without the user, the password and the fragment. -/
theorem exists_parse_of_getCall {address : String} {token : Option String} {url : Url} {call : Call}
    (sent : getCall address token = .ok (url, call)) :
    ∃ given, Url.parse address = .ok given ∧ given.IsWeb ∧ url = (takeCredentials given).1 ∧
      call.url = { url with fragment := none }.text := by
  unfold getCall at sent
  split at sent
  · cases sent
  · rename_i given parsed
    split at sent
    · cases sent
    · dsimp only at sent
      split at sent
      · cases sent
      · split at sent
        · cases sent
        · rename_i reachable
          cases sent
          refine ⟨given, parsed, ?_, rfl, rfl⟩
          have scheme : given.scheme = "http" ∨ given.scheme = "https" := by
            rw [takeCredentials_fst] at reachable
            simp only [isReachable, Bool.not_eq_true', Bool.not_eq_false, Bool.and_eq_true,
              Bool.or_eq_true, beq_iff_eq] at reachable
            exact reachable.1
          rcases scheme with http | https
          · exact ⟨by rw [http]; decide, by rw [http]; decide⟩
          · exact ⟨by rw [https]; decide, by rw [https]; decide⟩

end Http

namespace Authz

open Percent (decodeText? hasEscape)
open Text (trimSlashes)
open Url

/-- A URL asks for the models of a store: it is where the address is, has no query, and behind the
    path of the address it has three segments, the middle one of which is read as the store. -/
structure IsModelsUrl (api : Url) (storeId : String) (url : Url) : Prop where
  origin : url.origin = api.origin
  query : url.query = none
  path : ∃ s, url.path.text = trimSlashes api.path.text ++ "/stores/" ++ s ++
      "/authorization-models" ∧
    '/' ∉ s.toList ∧ decodeText? s.toList = some storeId.toList

theorem text_storeSegments (xs : List String) (s : String) :
    (Path.segments (xs ++ ["stores", s, "authorization-models"])).text =
      (Path.segments xs).text ++ "/stores/" ++ s ++ "/authorization-models" := by
  have stores : "/" ++ "stores" ++ "/" = "/stores/" := by decide
  have models : (Path.segments ["authorization-models"]).text = "/authorization-models" := by decide
  rw [Path.text_segments_append, Path.text_segments_cons, Path.text_segments_cons, models, ← stores]
  simp only [String.append_assoc]

theorem names_storeSegments (front : String) {s : String} (free : '/' ∉ s.toList) :
    names (front ++ "/stores/" ++ s ++ "/authorization-models") =
      names front ++ ["stores", s, "authorization-models"].map String.toList := by
  have stores : "/stores/" = "/" ++ "stores" ++ "/" := by decide
  have models : "/authorization-models" = "/" ++ "authorization-models" := by decide
  rw [stores, models, ← String.append_assoc, ← String.append_assoc, ← String.append_assoc,
    names_slash, names_slash, names_slash, names_of_free free,
    names_of_free (s := "stores") (by decide),
    names_of_free (s := "authorization-models") (by decide), List.append_assoc, List.append_assoc]
  rfl

section Base

variable {apiUrl storeId s : String} {api : Url} {authority : Authority} {more : List Char}
  (base : IsBaseAt apiUrl api authority more)

include base

/-- A path that goes on with the models of a store is not lost in a query or a fragment. -/
theorem splitTail_eq_nil_of_path (t : List Char)
    (path : (webUrl api.scheme authority (more ++ t)).path.text =
      trimSlashes api.path.text ++ "/stores/" ++ s ++ "/authorization-models") :
    (splitTail more).2 = [] := by
  by_contra opened
  obtain ⟨n, letters⟩ := Text.exists_trimSlashes_append api.path.text
  rw [base.path_of_open opened] at path
  have slashes := congrArg String.toList path
  rw [letters, String.append_assoc, String.append_assoc, String.toList_append,
    List.append_cancel_left_eq] at slashes
  have letter : 's' ∈ List.replicate n '/' := by
    rw [slashes, String.toList_append]
    exact List.mem_append_left _ (by decide)
  exact absurd (List.eq_of_mem_replicate letter) (by decide)

omit base in
/-- The segments of a URL for the models of a store. -/
theorem exists_segments_of_path (closed : (splitTail more).2 = [])
    (path : (webUrl api.scheme authority
      (more ++ '/' :: cleanedBack (storeTail storeId).toList)).path.text =
        trimSlashes api.path.text ++ "/stores/" ++ s ++ "/authorization-models")
    (free : '/' ∉ s.toList) :
    ∃ ys : List String, names (trimSlashes api.path.text) = [] :: ys.map String.toList ∧
      resolve false (above more) ("stores" :: segmentsOf true (storePath storeId)) =
        ys ++ ["stores", s, "authorization-models"] := by
  rw [path_webUrl_slash closed, segmentsOf_storeTail] at path
  have inside : ∀ x ∈ resolve false (above more)
      ("stores" :: segmentsOf true (storePath storeId)), '/' ∉ x.toList := by
    intro x member
    rcases mem_resolve member with rfl | earlier | later
    · decide
    · exact free_of_mem_above earlier
    · rcases List.mem_cons.mp later with rfl | later
      · decide
      · exact free_of_mem_segmentsOf later
  have pieces := congrArg names path
  rw [names_text_segments inside, names_storeSegments _ free] at pieces
  obtain ⟨first, rest, front⟩ := List.exists_cons_of_ne_nil
    (Text.splitBy_ne_nil (· == '/') (trimSlashes api.path.text).toList)
  rw [← names] at front
  rw [front, List.cons_append, List.cons.injEq] at pieces
  obtain ⟨rfl, pieces⟩ := pieces
  refine ⟨rest.map .ofList, ?_, (List.map_injective_iff.mpr fun _ _ => String.toList_inj.mp) ?_⟩
  · simp [front]
  · simp [pieces]

omit base in
/-- Two dots with white space behind them lead nowhere, but are a store. -/
theorem isPlainStore_of_dots {blanks : List Char} (letters : storeId.toList = '.' :: '.' :: blanks)
    (inside : blanks ≠ []) (blank : ∀ c ∈ blanks, isInnerBlank c = true) :
    IsPlainStore storeId := by
  have other : ∀ d ∈ ['/', '\\', '?', '#', '\t', '\n', '\r', '%'], isInnerBlank d = false := by
    simp [isInnerBlank]
  have free (d : Char) (mark : d ∈ ['/', '\\', '?', '#', '\t', '\n', '\r', '%']) :
      d ∉ storeId.toList := by
    rw [letters, List.mem_cons, List.mem_cons]
    rintro (rfl | rfl | member)
    · exact absurd mark (by decide)
    · exact absurd mark (by decide)
    · exact ne_of_isInnerBlank (blank d member) (other d mark) rfl
  refine ⟨fun c member mark => ?_, Percent.hasEscape_of_not_mem (free '%' (by decide)), ?_, ?_⟩
  · exact free c (List.mem_append_left ['%'] mark) member
  · rintro rfl
    cases letters
  · rintro rfl
    exact inside (List.cons.inj (List.cons.inj letters).2).2.symm

/-- A store that can be read from its URL is plain. -/
theorem isPlainStore_of_segments (closed : (splitTail more).2 = []) {ys : List String}
    (front : names (trimSlashes api.path.text) = [] :: ys.map String.toList)
    (resolved : resolve false (above more) ("stores" :: segmentsOf true (storePath storeId)) =
      ys ++ ["stores", s, "authorization-models"])
    (read : decodeText? s.toList = some storeId.toList) : IsPlainStore storeId := by
  refine (isPlainStore_or_suffix resolved read).elim id fun suffix => ?_
  have behind : "stores" :: ys.reverse <:+ above more := by
    rcases List.suffix_cons_iff.mp suffix with all | shorter
    · exact (List.cons.inj all).2 ▸ List.suffix_refl _
    · exact (List.suffix_cons s _).trans shorter
  obtain ⟨last, blanks, up, inside, blank, left⟩ :=
    base.above_of_suffix closed front (by decide) (by decide) behind
  -- Only the segment of dots and white space can be the one that is read, and it is plain.
  obtain rfl : s = encodePart pathSet (last ++ blanks) := by
    rw [left] at suffix
    rcases List.suffix_cons_iff.mp suffix with all | shorter
    · have lengths := congrArg List.length all
      simp at lengths
    · exact (List.cons.inj (shorter.eq_of_length rfl)).1
  have plain : '%' ∉ blanks := fun member => absurd (blank _ member) (by decide)
  have letters : storeId.toList = '.' :: '.' :: blanks := by
    rw [decodeText?_doubleDots up (Percent.hasEscape_of_not_mem plain)] at read
    exact (Option.some.inj read).symm
  exact isPlainStore_of_dots letters inside blank

/-- The URL for a store behind a base is one for the models of the store exactly if the base is
    under its URL and the store is plain. -/
theorem isModelsUrl_iff :
    IsModelsUrl api storeId (webUrl api.scheme authority
        (more ++ '/' :: cleanedBack (storeTail storeId).toList)) ↔
      api.IsUnder "/" (trimSlashes apiUrl ++ "/") ∧ IsPlainStore storeId := by
  rw [base.isUnder_slash_iff]
  constructor
  · rintro ⟨origin, -, s, path, free, read⟩
    have closed := splitTail_eq_nil_of_path base _ path
    obtain ⟨ys, front, resolved⟩ := exists_segments_of_path closed path free
    have plain := isPlainStore_of_segments base closed front resolved read
    refine ⟨⟨origin, closed, ?_⟩, plain⟩
    rw [plain.resolve_storeTail] at resolved
    obtain ⟨rfl, same⟩ := List.append_inj' resolved rfl
    obtain ⟨-, same⟩ := List.cons.inj same
    obtain ⟨rfl, -⟩ := List.cons.inj same
    rw [path_webUrl_slash closed, segmentsOf_storeTail, plain.resolve_storeTail,
      text_storeSegments, String.append_left_inj, String.append_left_inj,
      String.append_left_inj] at path
    exact path
  · rintro ⟨⟨origin, closed, path⟩, plain⟩
    refine ⟨origin, ?_, encodePart pathSet storeId.toList, ?_, ?_, plain.decodeText?_segment⟩
    · have stores : (splitTail "stores".toList).2 = [] := by decide
      rw [webUrl, splitTail_append_of_nil closed, splitTail_slash, cleanedBack_storeTail,
        splitTail_append_of_nil stores, splitTail_slash, plain.splitTail_eq]
      rfl
    · rw [path_webUrl_slash closed, segmentsOf_storeTail, plain.resolve_storeTail,
        text_storeSegments, path]
    · have inside : encodePart pathSet storeId.toList ∈ segmentsOf true (storePath storeId) := by
        rw [plain.segmentsOf_storePath]
        exact List.mem_cons_self
      exact free_of_mem_segmentsOf inside

end Base

/-- A URL is one for the models of a store as much with a user and a password as without them. -/
theorem isModelsUrl_takeCredentials {api : Url} {storeId : String} {url : Url} :
    IsModelsUrl api storeId (Http.takeCredentials url).1 ↔ IsModelsUrl api storeId url := by
  have origin := Http.origin_takeCredentials url
  have query : (Http.takeCredentials url).1.query = url.query := by rw [Http.takeCredentials_fst]
  have path : (Http.takeCredentials url).1.path = url.path := by rw [Http.takeCredentials_fst]
  constructor
  · rintro ⟨same, none, rest⟩
    exact ⟨origin ▸ same, query ▸ none, path ▸ rest⟩
  · rintro ⟨same, none, rest⟩
    exact ⟨origin.trans same, query.trans none, path ▸ rest⟩

/-- A path for the models of a store tells the store. -/
theorem IsModelsUrl.storeId_eq {api url url' : Url} {storeId storeId' : String}
    (asks : IsModelsUrl api storeId url) (asks' : IsModelsUrl api storeId' url')
    (same : url.path.text = url'.path.text) : storeId = storeId' := by
  obtain ⟨-, -, s, path, -, read⟩ := asks
  obtain ⟨-, -, s', path', -, read'⟩ := asks'
  rw [path, path', String.append_left_inj, String.append_right_inj] at same
  rw [same, read'] at read
  exact String.toList_inj.mp (Option.some.inj read).symm

/-- URLs of one place without queries are told apart by their paths. -/
theorem path_eq_of_text {url url' : Url} {authority : Authority}
    (scheme : url.scheme = url'.scheme) (place : url.authority = some authority)
    (place' : url'.authority = some authority) (bare : url.query = none)
    (bare' : url'.query = none)
    (same : { url with fragment := none }.text = { url' with fragment := none }.text) :
    url.path.text = url'.path.text := by
  simpa [text, frontText, marked, scheme, place, place', bare, bare', String.append_right_inj]
    using same

/-- What a client asks for is written behind the address that it is made with. -/
theorem Client.modelsUrl_eq {apiUrl storeId : String} {token : Option String} {client : Client}
    (made : ofSettings apiUrl storeId token = .ok client) :
    client.apiUrl = trimSlashes apiUrl ∧
      client.modelsUrl = trimSlashes apiUrl ++ "/" ++ storeTail storeId := by
  obtain ⟨-, -, rfl⟩ := Client.ofSettings_eq_ok_iff.mp made
  have stores : "/stores/" = "/" ++ "stores/" := by decide
  refine ⟨rfl, ?_⟩
  rw [modelsUrl, storeTail, stores]
  simp only [String.append_assoc]

theorem Client.listModels_of_getCall {client : Client} {url : Url} {call : Http.Call}
    (sent : Http.getCall client.modelsUrl client.token = .ok (url, call))
    (services : Http.Services) :
    (client.listModels services).2 = [⟨call, services [] call⟩] := by
  rw [listModels, sent]

section Sent

variable {apiUrl storeId : String} {token : Option String} {client : Client} {url : Url}
  {call : Http.Call} {api : Url}

/-- What is sent for an address, by what is read of it. -/
theorem Client.exists_isBaseAt_of_sent (made : ofSettings apiUrl storeId token = .ok client)
    (sent : Http.getCall client.modelsUrl client.token = .ok (url, call))
    (parsed : parse apiUrl = .ok api) :
    ∃ authority more, IsBaseAt apiUrl api authority more := by
  obtain ⟨given, linked, web, -, -⟩ := Http.exists_parse_of_getCall sent
  rw [(modelsUrl_eq made).2] at linked
  exact exists_isBaseAt parsed linked web

theorem Client.url_eq_of_sent (made : ofSettings apiUrl storeId token = .ok client)
    (sent : Http.getCall client.modelsUrl client.token = .ok (url, call))
    {authority : Authority} {more : List Char} (base : IsBaseAt apiUrl api authority more) :
    url = (Http.takeCredentials (webUrl api.scheme authority
        (more ++ '/' :: cleanedBack (storeTail storeId).toList))).1 ∧
      call.url = { url with fragment := none }.text := by
  obtain ⟨given, linked, -, rfl, written⟩ := Http.exists_parse_of_getCall sent
  rw [(modelsUrl_eq made).2, base.parse_append] at linked
  cases linked
  exact ⟨rfl, written⟩

theorem Client.isModelsUrl_iff_of_sent (made : ofSettings apiUrl storeId token = .ok client)
    (sent : Http.getCall client.modelsUrl client.token = .ok (url, call))
    (parsed : parse apiUrl = .ok api) :
    IsModelsUrl api storeId url ↔
      api.IsUnder "/" (client.apiUrl ++ "/") ∧ IsPlainStore storeId := by
  obtain ⟨authority, more, base⟩ := exists_isBaseAt_of_sent made sent parsed
  obtain ⟨rfl, -⟩ := url_eq_of_sent made sent base
  rw [isModelsUrl_takeCredentials, isModelsUrl_iff base, (modelsUrl_eq made).1]

/-- What is sent for the models of a store tells the store. -/
theorem Client.storeId_eq_of_sent (made : ofSettings apiUrl storeId token = .ok client)
    (sent : Http.getCall client.modelsUrl client.token = .ok (url, call))
    (parsed : parse apiUrl = .ok api) (asks : IsModelsUrl api storeId url)
    {storeId' : String} {token' : Option String} {client' : Client} {url' : Url}
    {call' : Http.Call} (made' : ofSettings apiUrl storeId' token' = .ok client')
    (sent' : Http.getCall client'.modelsUrl client'.token = .ok (url', call'))
    (asks' : IsModelsUrl api storeId' url') (same : call.url = call'.url) :
    storeId = storeId' := by
  obtain ⟨authority, more, base⟩ := exists_isBaseAt_of_sent made sent parsed
  obtain ⟨place, text⟩ := url_eq_of_sent made sent base
  obtain ⟨place', text'⟩ := url_eq_of_sent made' sent' base
  rw [text, text'] at same
  rw [Http.takeCredentials_fst] at place place'
  have here : url.authority = some (Http.withoutCredentials authority) := by rw [place]; rfl
  have here' : url'.authority = some (Http.withoutCredentials authority) := by rw [place']; rfl
  have scheme : url.scheme = url'.scheme := by rw [place, place']; rfl
  exact asks.storeId_eq asks' (path_eq_of_text scheme here here' asks.query asks'.query same)

end Sent

/-- A client is bound to its store exactly if its address is one behind which a path can be written
    and its store is plain: the URL that it asks for is then where the address is, with the path of
    the address, the name of the stores, the store, and the name of the models.  Two such clients of
    one address ask for one URL only if they have one store. -/
theorem Client.isBound_iff {apiUrl storeId : String} {token : Option String} {client : Client}
    {url : Url} {call : Http.Call} (made : ofSettings apiUrl storeId token = .ok client)
    (sent : Http.getCall client.modelsUrl client.token = .ok (url, call)) :
    (∀ services, (client.listModels services).2 = [⟨call, services [] call⟩]) ∧
      call.url = { url with fragment := none }.text ∧
      ((∃ api, parse apiUrl = .ok api ∧ IsModelsUrl api storeId url) ↔
        (∃ api, parse apiUrl = .ok api ∧ api.IsUnder "/" (client.apiUrl ++ "/")) ∧
          IsPlainStore storeId) ∧
      ((∃ api, parse apiUrl = .ok api ∧ IsModelsUrl api storeId url) →
        ∀ {storeId' token' client' url' call'},
          ofSettings apiUrl storeId' token' = .ok client' →
          Http.getCall client'.modelsUrl client'.token = .ok (url', call') →
          (∃ api, parse apiUrl = .ok api ∧ IsModelsUrl api storeId' url') →
          call.url = call'.url → storeId = storeId') := by
  obtain ⟨given, -, -, -, written⟩ := Http.exists_parse_of_getCall sent
  refine ⟨listModels_of_getCall sent, written, ?_, ?_⟩
  · constructor
    · rintro ⟨api, parsed, asks⟩
      obtain ⟨under, plain⟩ := (isModelsUrl_iff_of_sent made sent parsed).mp asks
      exact ⟨⟨api, parsed, under⟩, plain⟩
    · rintro ⟨⟨api, parsed, under⟩, plain⟩
      exact ⟨api, parsed, (isModelsUrl_iff_of_sent made sent parsed).mpr ⟨under, plain⟩⟩
  · rintro ⟨api, parsed, asks⟩ storeId' token' client' url' call' made' sent' ⟨_, again, asks'⟩ same
    cases parsed.symm.trans again
    exact storeId_eq_of_sent made sent parsed asks made' sent' asks' same

/-- A store with a space is asked for by a segment behind the path of the address. -/
theorem Client.isBound_space :
    ∃ client url call, ofSettings "http://fga.test/api/" "a b" none = .ok client ∧
      Http.getCall client.modelsUrl client.token = .ok (url, call) ∧
      call.url = "http://fga.test/api/stores/a%20b/authorization-models" ∧
      ∃ api, parse "http://fga.test/api/" = .ok api ∧ IsModelsUrl api "a b" url := by
  have made : ofSettings "http://fga.test/api/" "a b" none =
      .ok ⟨"http://fga.test/api", "a b", none⟩ := eq_ok_of_toOption (by decide +kernel)
  have parsed : parse "http://fga.test/api/" =
      .ok ⟨"http", some ⟨"", none, .domain "fga.test", none⟩, .segments ["api", ""], none, none⟩ :=
    eq_ok_of_toOption (by decide +kernel)
  have asked : (Http.getCall "http://fga.test/api/stores/a b/authorization-models"
      none).toOption.map (·.2.url) =
        some "http://fga.test/api/stores/a%20b/authorization-models" := by decide +kernel
  obtain ⟨⟨url, call⟩, found, text⟩ := Option.map_eq_some_iff.mp asked
  have sent := eq_ok_of_toOption found
  refine ⟨_, url, call, made, sent, text, (isBound_iff made sent).2.2.1.mpr ⟨⟨_, parsed, ?_⟩, ?_⟩⟩
  · exact ⟨_, parsed, rfl, rfl, rfl, by decide⟩
  · decide

/-- The request for the store `b` of an address. -/
def storeCall : Http.Call :=
  { method := "GET"
    url := "http://fga.test/stores/b/authorization-models"
    authorization := []
    accept := ["*/*"]
    contentType := []
    body := "" }

/-- A store that leads up and down again is asked for as the one that it leads to. -/
theorem Client.not_isBound_climbing :
    ∃ client client' url url', ofSettings "http://fga.test" "a/../b" none = .ok client ∧
      ofSettings "http://fga.test" "b" none = .ok client' ∧
      Http.getCall client.modelsUrl client.token = .ok (url, storeCall) ∧
      Http.getCall client'.modelsUrl client'.token = .ok (url', storeCall) ∧
      ¬ ∃ api, parse "http://fga.test" = .ok api ∧ IsModelsUrl api "a/../b" url := by
  have made : ofSettings "http://fga.test" "a/../b" none =
      .ok ⟨"http://fga.test", "a/../b", none⟩ := eq_ok_of_toOption (by decide +kernel)
  have made' : ofSettings "http://fga.test" "b" none = .ok ⟨"http://fga.test", "b", none⟩ :=
    eq_ok_of_toOption (by decide +kernel)
  have asked : (Http.getCall "http://fga.test/stores/a/../b/authorization-models" none).toOption.map
      (·.2) = some storeCall := by decide +kernel
  have asked' : (Http.getCall "http://fga.test/stores/b/authorization-models" none).toOption.map
      (·.2) = some storeCall := by decide +kernel
  obtain ⟨⟨url, _⟩, found, rfl⟩ := Option.map_eq_some_iff.mp asked
  obtain ⟨⟨url', _⟩, found', rfl⟩ := Option.map_eq_some_iff.mp asked'
  have sent := eq_ok_of_toOption found
  refine ⟨_, _, url, url', made, made', sent, eq_ok_of_toOption found', ?_⟩
  rintro ⟨api, parsed, asks⟩
  obtain ⟨-, plain⟩ := (isModelsUrl_iff_of_sent made sent parsed).mp asks
  exact absurd plain (by decide)

end Authz

end Gatehouse
