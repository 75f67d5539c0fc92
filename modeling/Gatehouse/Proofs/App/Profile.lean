import Gatehouse.App.Profile
import Gatehouse.Proofs.Session.Codec
import Gatehouse.Proofs.Text.Html
import Gatehouse.Proofs.Text.Markup

/-!
# The profile page is closed

Whatever a user is called, the profile page has the tags of its template, and the three
texts in it are read back as what they were made from.
-/

namespace Gatehouse

/-- A user is read back from the JSON form with each member on a line of its own. -/
theorem Session.User.reader_lines (user : User) :
    User.reader (Utf8.octets
      (Json.writeObjectLines (user.members.map fun (name, s) => (name, Json.writeText s)))) =
        .ok (user, []) := by
  have read := Json.Shape.read_writeObjectLines userShape 126 (userShape_fills_user user)
  rw [User.reader, Json.maxDepth, User.members, read]
  rfl

namespace App

open Html (AmpersandsBegin Tag attributeReference? escape isTable_attribute isTable_text
  textReference? unescape)

/-- The tags in front of the greeting. -/
def frontTags : List Tag :=
  [⟨"!DOCTYPE", [⟨"html", none⟩], "\n"⟩, ⟨"html", [], "\n"⟩, ⟨"head", [], ""⟩,
    ⟨"title", [], "Profile"⟩, ⟨"/title", [], ""⟩, ⟨"/head", [], "\n"⟩, ⟨"body", [], "\n"⟩]

/-- The tags of the page around three texts. -/
def profileTags (texts : ProfileTexts) : List Tag :=
  frontTags ++
    ⟨"p", [], "Hello " ++ texts.email ++ "!"⟩ :: [⟨"/p", [], "\n"⟩, ⟨"p", [], ""⟩] ++
    ⟨"a", [⟨"href", some texts.logout⟩], "Logout"⟩ :: [⟨"/a", [], ""⟩, ⟨"/p", [], "\n"⟩] ++
    ⟨"pre", [], texts.data⟩ ::
      [⟨"/pre", [], "\n"⟩, ⟨"/body", [], "\n"⟩, ⟨"/html", [], "\n"⟩]

theorem toList_profilePage (texts : ProfileTexts) :
    (profilePage texts).toList = (profileTags texts).flatMap Tag.chars := by
  have greeting :
      "<!DOCTYPE html>\n<html>\n<head><title>Profile</title></head>\n<body>\n<p>Hello ".toList =
        frontTags.flatMap Tag.chars ++ '<' :: ("p".toList ++ '>' :: "Hello ".toList) := by
    decide +kernel
  have link : "!</p>\n<p><a href=\"".toList =
      "!".toList ++ ([⟨"/p", [], "\n"⟩, ⟨"p", [], ""⟩].flatMap Tag.chars ++
        '<' :: ("a".toList ++ ' ' :: ("href".toList ++ ['=', '"']))) := by
    decide +kernel
  have data : "\">Logout</a></p>\n<pre>".toList =
      '"' :: '>' :: ("Logout".toList ++ ([⟨"/a", [], ""⟩, ⟨"/p", [], "\n"⟩].flatMap Tag.chars ++
        '<' :: ("pre".toList ++ ['>']))) := by
    decide +kernel
  have last : "</pre>\n</body>\n</html>\n".toList =
      [⟨"/pre", [], "\n"⟩, ⟨"/body", [], "\n"⟩, ⟨"/html", [], "\n"⟩].flatMap Tag.chars := by
    decide +kernel
  unfold profilePage
  simp only [String.toList_append, greeting, link, data, last]
  simp only [profileTags, List.flatMap_append, List.flatMap_cons, List.flatMap_nil, Tag.chars,
    Html.Attribute.chars, Html.valueChars, String.toList_append, List.append_assoc,
    List.cons_append, List.nil_append]

/-- Texts that end no part of the page. -/
structure ProfileTexts.AreClosed (texts : ProfileTexts) : Prop where
  email : '<' ∉ texts.email.toList
  logout : '"' ∉ texts.logout.toList
  data : '<' ∉ texts.data.toList

theorem isClosed_of_mem_profileTags {texts : ProfileTexts} (closed : texts.AreClosed) :
    ∀ tag ∈ profileTags texts, tag.IsClosed := by
  have names : Html.IsName "p" ∧ Html.IsName "a" ∧ Html.IsName "href" ∧ Html.IsName "pre" := by
    decide
  obtain ⟨p, a, href, pre⟩ := names
  have greeting : Tag.IsClosed ⟨"p", [], "Hello " ++ texts.email ++ "!"⟩ := by
    have front : '<' ∉ "Hello ".toList := by decide
    have back : '<' ∉ "!".toList := by decide
    refine ⟨p, fun _ member => (nomatch member), ?_⟩
    rw [String.toList_append, String.toList_append, List.mem_append, List.mem_append]
    simp only [front, closed.email, back, or_self, not_false_eq_true]
  have link : Tag.IsClosed ⟨"a", [⟨"href", some texts.logout⟩], "Logout"⟩ := by
    have text : '<' ∉ "Logout".toList := by decide
    refine ⟨a, ?_, text⟩
    rw [List.forall_mem_singleton]
    refine ⟨href, fun value member => ?_⟩
    cases member
    exact closed.logout
  have data : Tag.IsClosed ⟨"pre", [], texts.data⟩ :=
    ⟨pre, fun _ member => (nomatch member), closed.data⟩
  unfold profileTags
  rw [List.forall_mem_append, List.forall_mem_append, List.forall_mem_append]
  refine ⟨⟨⟨by decide +kernel, ?_⟩, ?_⟩, ?_⟩
  · exact List.forall_mem_cons.mpr ⟨greeting, by decide +kernel⟩
  · exact List.forall_mem_cons.mpr ⟨link, by decide +kernel⟩
  · exact List.forall_mem_cons.mpr ⟨data, by decide +kernel⟩

/-- Around texts that end no part of it the page has the tags of the template. -/
theorem tags?_profilePage {texts : ProfileTexts} (closed : texts.AreClosed) :
    Html.tags? (profilePage texts) = some (profileTags texts) := by
  rw [← Html.tags?_written (isClosed_of_mem_profileTags closed), ← toList_profilePage,
    String.ofList_toList]

/-- A text that was put into a page as references of a table: no bracket is left of it, every
    ampersand begins a reference, and reading the references gives it back. -/
structure IsContained (reference? : Char → Option String) (text piece : String) : Prop where
  less : '<' ∉ piece.toList
  greater : '>' ∉ piece.toList
  ampersands : AmpersandsBegin reference? piece.toList
  read : unescape piece.toList = text.toList

theorem isContained_escapeText (text : String) :
    IsContained textReference? text (Html.escapeText text) := by
  unfold Html.escapeText
  constructor <;> rw [String.toList_ofList]
  · exact Html.not_mem_escape isTable_text (by decide) (by decide) _
  · exact Html.not_mem_escape isTable_text (by decide) (by decide) _
  · exact Html.ampersandsBegin_escape isTable_text _
  · exact Html.unescape_escape isTable_text _

theorem isContained_escapeAttribute (text : String) :
    IsContained attributeReference? text (Html.escapeAttribute text) ∧
      '"' ∉ (Html.escapeAttribute text).toList := by
  unfold Html.escapeAttribute
  refine ⟨?_, ?_⟩
  · constructor <;> rw [String.toList_ofList]
    · exact Html.not_mem_escape isTable_attribute (by decide) (by decide) _
    · exact Html.not_mem_escape isTable_attribute (by decide) (by decide) _
    · exact Html.ampersandsBegin_escape isTable_attribute _
    · exact Html.unescape_escape isTable_attribute _
  · rw [String.toList_ofList]
    exact Html.not_mem_escape isTable_attribute (by decide) (by decide) _

/-- The profile page cannot be broken out of.  For every base URL and every user it is the template
    around three pieces without brackets, of which the one in the attribute has no quote either, so
    that the page has the tags and the attributes of the template.  Read back, the pieces are the
    address of the user, the address that logs the user out, and a JSON text of the user. -/
theorem renderProfile_closed (baseUrl : String) (user : Session.User) :
    ∃ (pieces : ProfileTexts) (json : String),
      renderProfile baseUrl user = profilePage pieces ∧
      IsContained textReference? user.email pieces.email ∧
      IsContained attributeReference? (baseUrl ++ "/logout/" ++ user.provider) pieces.logout ∧
      '"' ∉ pieces.logout.toList ∧
      IsContained textReference? json pieces.data ∧
      Json.read Session.User.reader (Utf8.octets json) = .ok user ∧
      Html.tags? (renderProfile baseUrl user) = some (profileTags pieces) := by
  let texts := ProfileTexts.ofUser baseUrl user
  have email := isContained_escapeText texts.email
  obtain ⟨logout, quote⟩ := isContained_escapeAttribute texts.logout
  have data := isContained_escapeText texts.data
  exact ⟨texts.escaped, texts.data, rfl, email, logout, quote, data,
    Json.read_of_ok user.reader_lines, tags?_profilePage ⟨email.less, quote, data.less⟩⟩

end App

end Gatehouse
