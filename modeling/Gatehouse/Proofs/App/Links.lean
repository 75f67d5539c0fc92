import Gatehouse.Proofs.App.State
import Gatehouse.Proofs.Url.Slashes

/-!
# The links of the application

What is read of the URLs that an accepted configuration makes from its base URL: when they are
under the URL that the variables give, and when the base path is an absolute one.
-/

namespace Gatehouse.Settings

open App (localVariables)
open Text (trimSlashes)

/-- A configuration is made of a base URL and of the path of the callback. -/
structure Config.IsBasedOn (config : Config) (given redirectPath : String) (url : Url) : Prop where
  parsed : Url.parse given = .ok url
  baseUrl : config.baseUrl = trimSlashes given
  basePath : config.basePath = basePathOf url
  loginUrl : config.loginUrl = config.baseUrl ++ "/login/openid-connect"
  redirectUrl : config.provider.redirectUrl = config.baseUrl ++ redirectPath

theorem Config.exists_isBasedOn {env : Variables} {config : Config}
    (accepted : ofVariables env = .ok config) :
    ∃ given redirectPath url, text? env "app_base_url" = .ok (some given) ∧
      text? env "app_oidc_redirect_path" = .ok (some redirectPath) ∧
      config.IsBasedOn given redirectPath url := by
  obtain ⟨raw, given, redirectPath, url, read, made⟩ := exists_isMadeOf accepted
  have base := read.baseUrl
  have redirect := read.redirectPath
  rw [made.base] at base
  rw [made.redirect] at redirect
  refine ⟨given, redirectPath, url, base, redirect, made.parsed, made.baseUrl, made.basePath,
    made.loginUrl, ?_⟩
  rw [made.provider, made.baseUrl]
  change raw.redirectUrl = _
  rw [Raw.redirectUrl, made.base, made.redirect]
  rfl

/-- The login, the profile and the logout are under a URL. -/
def Config.LinksAreUnder (config : Config) (url : Url) : Prop :=
  url.IsUnder "/login/openid-connect" config.loginUrl ∧
    url.IsUnder "/profile" (config.baseUrl ++ "/profile") ∧
    url.IsUnder "/logout/openid-connect" (config.baseUrl ++ "/logout/openid-connect")

/-- What the URLs of a configuration have to do with the one that it is given.  The links are under
    it exactly if the base is; for a URL of the web that ends in a visible character this means that
    it has no query, no fragment and no empty segment at its end.  The callback is then under it as
    well if its path leads down, and the base path is absolute unless it is an opaque text. -/
structure Config.IsLinked (config : Config) (url : Url) (redirectPath : String) : Prop where
  links : config.LinksAreUnder url ↔
    Url.IsClosed config.baseUrl ∧ url.IsUnder "/" (config.baseUrl ++ "/")
  web : url.IsWeb → (∀ c ∈ config.baseUrl.toList.getLast?, 0x20 < c.toNat) →
    (config.LinksAreUnder url ↔ url.query = none ∧ url.fragment = none ∧
      ∀ dir front, Url.parse (config.baseUrl ++ "/") = .ok dir → dir.path.text ≠ front ++ "//")
  callback : config.LinksAreUnder url → ∀ t, redirectPath = "/" ++ t →
    Url.Descends (Url.cleanedBack t.toList) →
      ∃ link more, Url.parse config.provider.redirectUrl = .ok link ∧ link.origin = url.origin ∧
        link.path.text = trimSlashes url.path.text ++ "/" ++ more
  basePath : (∃ rest, config.basePath = "/" ++ rest) ↔
    ∀ text, url.path = .opaqueText text → text = ""

/-- The base path of a URL is absolute unless the URL has an opaque path. -/
theorem exists_basePathOf_iff {given : String} {url : Url} (parsed : Url.parse given = .ok url) :
    (∃ rest, basePathOf url = "/" ++ rest) ↔ ∀ text, url.path = .opaqueText text → text = "" := by
  rw [basePathOf]
  cases path : url.path with
  | segments list =>
    refine ⟨fun _ text same => (nomatch same), fun _ => ?_⟩
    cases list with
    | nil => exact ⟨"", rfl⟩
    | cons first rest =>
      have filled : (Url.Path.segments (first :: rest)).text.isEmpty = false := by
        rw [Url.Path.text_segments_cons, String.append_assoc]
        simp
      rw [filled]
      exact ⟨first ++ (Url.Path.segments rest).text, by
        rw [Url.Path.text_segments_cons, String.append_assoc]
        rfl⟩
  | opaqueText text =>
    constructor
    · rintro ⟨rest, slash⟩ text' same
      cases same
      by_contra filled
      rw [Url.Path.text, if_neg (by simpa using filled)] at slash
      exact Url.opaqueText_ne_slash parsed path rest slash
    · intro empty
      rw [empty text rfl]
      exact ⟨"", rfl⟩

theorem Config.linksAreUnder_iff {config : Config} {url : Url}
    (loginUrl : config.loginUrl = config.baseUrl ++ "/login/openid-connect") :
    config.LinksAreUnder url ↔
      Url.IsClosed config.baseUrl ∧ url.IsUnder "/" (config.baseUrl ++ "/") := by
  rw [← Url.isUnder_links_iff, LinksAreUnder, loginUrl]
  simp [Url.linkTails, String.append_assoc]

/-- The URLs of an accepted configuration, and what they have to do with the variables. -/
theorem Config.isLinked_ofVariables {env : Variables} {config : Config}
    (accepted : ofVariables env = .ok config) :
    ∃ given redirectPath url, text? env "app_base_url" = .ok (some given) ∧
      text? env "app_oidc_redirect_path" = .ok (some redirectPath) ∧
      config.IsBasedOn given redirectPath url ∧ config.IsLinked url redirectPath := by
  obtain ⟨given, redirectPath, url, base, redirect, based⟩ := exists_isBasedOn accepted
  have links : config.LinksAreUnder url ↔
      Url.IsClosed config.baseUrl ∧ url.IsUnder "/" (config.baseUrl ++ "/") :=
    linksAreUnder_iff based.loginUrl
  refine ⟨given, redirectPath, url, base, redirect, based, links, ?_, ?_, ?_⟩
  · intro web ends
    rw [based.baseUrl] at links ends ⊢
    obtain ⟨-, -, -, closed, -⟩ := Url.IsWeb.exists_parts based.parsed web ends
    rw [links, and_iff_right closed]
    exact Url.isUnder_slash_iff based.parsed web ends
  · rintro under t rfl descends
    obtain ⟨closed, under⟩ := links.mp under
    rw [based.redirectUrl, ← String.append_assoc]
    exact under.exists_below closed descends
  · rw [based.basePath]
    exact exists_basePathOf_iff based.parsed

/-- A URL on this host. -/
def localUrl (segments : List String) : Url :=
  ⟨"http", some ⟨"", none, .domain "localhost", some 8080⟩, .segments segments, none, none⟩

/-- Under `/app` all links are where they are meant to be. -/
theorem Config.isLinked_ofVariables_app :
    ∃ config url, ofVariables localVariables = .ok config ∧
      Url.parse "http://localhost:8080/app" = .ok url ∧ config.LinksAreUnder url ∧
      (∃ link more, Url.parse config.provider.redirectUrl = .ok link ∧ link.origin = url.origin ∧
        link.path.text = "/app/" ++ more) ∧
      ∃ rest, config.basePath = "/" ++ rest := by
  obtain ⟨config, shown, baseUrl⟩ := Option.map_eq_some_iff.mp
    (by decide +kernel : (ofVariables localVariables).toOption.map (·.baseUrl) =
      some "http://localhost:8080/app")
  have accepted := eq_ok_of_toOption shown
  obtain ⟨given, redirectPath, url, base, redirect, based, linked⟩ :=
    Config.isLinked_ofVariables accepted
  have parsed := based.parsed
  have base' : text? localVariables "app_base_url" = .ok (some "http://localhost:8080/app") :=
    eq_ok_of_toOption (by decide +kernel)
  have redirect' : text? localVariables "app_oidc_redirect_path" =
      .ok (some "/auth/openid-connect/callback") := eq_ok_of_toOption (by decide +kernel)
  cases base'.symm.trans base
  cases redirect'.symm.trans redirect
  have read : Url.parse "http://localhost:8080/app" = .ok (localUrl ["app"]) :=
    eq_ok_of_toOption (by decide +kernel)
  have dir : Url.parse "http://localhost:8080/app/" = .ok (localUrl ["app", ""]) :=
    eq_ok_of_toOption (by decide +kernel)
  obtain rfl : localUrl ["app"] = url := Except.ok.inj (read.symm.trans parsed)
  have under : config.LinksAreUnder (localUrl ["app"]) := by
    refine (linked.web ⟨by decide, by decide⟩ ?_).mpr ⟨rfl, rfl, ?_⟩
    · intro c last
      have letter : "http://localhost:8080/app".toList.getLast? = some 'p' := by decide
      rw [baseUrl, letter] at last
      cases last
      decide
    · intro dir' front found slashes
      rw [baseUrl] at found
      obtain rfl : localUrl ["app", ""] = dir' := Except.ok.inj (dir.symm.trans found)
      have ends := congrArg (fun text => text.toList.reverse) slashes
      rw [String.toList_append, List.reverse_append] at ends
      exact absurd (List.cons.inj (List.cons.inj ends).2).1 (by decide)
  have slash : trimSlashes "/app" ++ "/" = "/app/" := by decide
  refine ⟨config, _, accepted, parsed, under, ?_, ?_⟩
  · rw [← slash]
    exact linked.callback under "auth/openid-connect/callback" (by decide) (by decide)
  · exact linked.basePath.mpr fun text same => nomatch same

/-- Variables of an application whose base URL ends with a blank behind a slash. -/
def blankVariables : Variables :=
  [("APP_BASE_URL", "http://localhost:8080/app/ "), ("APP_SECRET_KEY", "secret"),
    ("APP_OIDC_REDIRECT_PATH", "/auth/openid-connect/callback")]

/-- A base URL with a blank at its end is accepted and read without it, but the slash in front of
    it is kept, and the links are elsewhere. -/
theorem Config.linksAreUnder_blank :
    ∃ config url link, ofVariables blankVariables = .ok config ∧
      Url.parse "http://localhost:8080/app/ " = .ok url ∧ url.path.text = "/app/" ∧
      Url.parse config.loginUrl = .ok link ∧
      link.path.text = "/app/%20/login/openid-connect" ∧ ¬config.LinksAreUnder url := by
  obtain ⟨config, shown, loginUrl⟩ := Option.map_eq_some_iff.mp
    (by decide +kernel : (ofVariables blankVariables).toOption.map (·.loginUrl) =
      some "http://localhost:8080/app/ /login/openid-connect")
  have read : Url.parse "http://localhost:8080/app/ " = .ok (localUrl ["app", ""]) :=
    eq_ok_of_toOption (by decide +kernel)
  have login : Url.parse config.loginUrl =
      .ok (localUrl ["app", "%20", "login", "openid-connect"]) := by
    rw [loginUrl]
    exact eq_ok_of_toOption (by decide +kernel)
  refine ⟨config, _, _, eq_ok_of_toOption shown, read, by decide, login, by decide, ?_⟩
  rintro ⟨⟨link, parsed, -, -, -, path⟩, -⟩
  obtain rfl : localUrl _ = link := Except.ok.inj (login.symm.trans parsed)
  exact absurd path (by decide)

end Gatehouse.Settings
