import Gatehouse.Oidc.ProviderJson
import Gatehouse.Proofs.Json.Fields
import Gatehouse.Proofs.Json.Objects

/-!
# Provider settings read back

Provider settings come back from their JSON form as they were, whatever strings they are made of.
A text whose fields are at fault is not read as settings.
-/

namespace Gatehouse.Oidc

/-- The names under which the parts of provider settings stand. -/
def memberNames : List String :=
  ["provider_name", "client_id", "client_secret", "redirect_url", "authorize_url", "token_url",
    "api_base_url", "user_info_url", "scopes"]

/-- The names of the parts that have no usual form. -/
def requiredNames : List String :=
  ["client_id", "client_secret", "redirect_url", "authorize_url", "token_url", "user_info_url"]

/-- What is wrong with fields: there is none for a required part, there are several for one part,
    or that for a part holds something else than a string. -/
def AtFault (fields : List (String × List UInt8)) : Prop :=
  (∃ name ∈ requiredNames, name ∉ fields.map Prod.fst) ∨
    (∃ name ∈ memberNames, 1 < (fields.map Prod.fst).count name) ∨
    ∃ field ∈ fields, field.1 ∈ memberNames ∧ (Json.skipSpace field.2).head? ≠ some 0x22

instance (fields : List (String × List UInt8)) : Decidable (AtFault fields) :=
  inferInstanceAs (Decidable (_ ∨ _ ∨ _))

/-- A draft with all parts of provider settings. -/
def Provider.draft (provider : Provider) : ProviderDraft :=
  ⟨some provider.name, some provider.clientId, some provider.clientSecret,
    some provider.redirectUrl, some provider.authorizeUrl, some provider.tokenUrl,
    some provider.apiBaseUrl, some provider.userInfoUrl, some provider.scopesText⟩

theorem providerShape_fills (provider : Provider) :
    providerShape.Fills 126 .blank provider.members provider.draft := by
  unfold Provider.members
  iterate 9 refine .known rfl rfl (Json.Member.text_fill _ _ _ _ _ _ _) ?_
  exact .done _

/-- Provider settings are read back from their JSON form. -/
theorem Provider.ofJson_json (provider : Provider) : ofJson provider.json = .ok provider := by
  refine Json.read_of_ok ?_
  rw [reader, json, Json.maxDepth,
    Json.Shape.read_writeObject providerShape 126 (providerShape_fills provider)]
  rfl

/-- Each member of provider settings holds a string, and a string that it takes fills it alone. -/
theorem exists_text_of_mem {m : Json.Member ProviderDraft} (member : m ∈ providerShape.members) :
    ∃ name required get set, m = .text name required get set ∧
      ∀ record s, ∀ other ∈ providerShape.members,
        other.filled (set record s) = (other.name == name || other.filled record) := by
  simp only [providerShape, List.mem_cons, List.not_mem_nil, or_false] at member
  rcases member with rfl | rfl | rfl | rfl | rfl | rfl | rfl | rfl | rfl <;>
    refine ⟨_, _, _, _, rfl, fun record s => ?_⟩ <;>
    simp only [providerShape, List.forall_mem_cons, Json.Member.text] <;>
    exact ⟨rfl, rfl, rfl, rfl, rfl, rfl, rfl, rfl, rfl, List.forall_mem_nil _⟩

theorem readString_of_fill {m : Json.Member ProviderDraft} (member : m ∈ providerShape.members)
    {depth : Nat} {record filled : ProviderDraft} {input rest : List UInt8}
    (fill : m.fill depth record input = .ok (filled, rest)) :
    ∃ s, Json.readString input = .ok (s, rest) ∧ ∀ other ∈ providerShape.members,
      other.filled filled = (other.name == m.name || other.filled record) := by
  obtain ⟨name, required, get, set, rfl, own⟩ := exists_text_of_mem member
  obtain ⟨⟨s, after⟩, read, same⟩ := exists_of_map_eq_ok fill
  cases same
  exact ⟨s, read, own record s⟩

theorem providerShape_lawful (depth : Nat) : providerShape.Lawful depth where
  names := by decide
  ends m member record input filled rest fill := by
    obtain ⟨s, read, -⟩ := readString_of_fill member fill
    exact Json.skipValue_of_readString read
  fills m member record input filled rest fill := by
    obtain ⟨s, -, own⟩ := readString_of_fill member fill
    exact own

/-- The fields of a text that is read as provider settings are not at fault. -/
theorem not_atFault_of_read {octets rest : List UInt8} {draft : ProviderDraft}
    (read : providerShape.read .blank Json.maxDepth octets = .ok (draft, rest)) :
    ¬AtFault (Json.fields memberNames octets) := by
  have lawful := providerShape_lawful 126
  have blank : ∀ m ∈ providerShape.members, m.filled ProviderDraft.blank = false := by
    simp only [providerShape, List.forall_mem_cons]
    exact ⟨rfl, rfl, rfl, rfl, rfl, rfl, rfl, rfl, rfl, List.forall_mem_nil _⟩
  have named : ∀ name ∈ memberNames, ∃ m ∈ providerShape.members, m.name = name :=
    fun name known => List.mem_map.mp known
  have required : ∀ name ∈ requiredNames,
      ∃ m ∈ providerShape.members, m.name = name ∧ m.required = true := by decide
  obtain ⟨takes, complete⟩ := lawful.takes_of_read blank read
  have count {m : Json.Member ProviderDraft} (member : m ∈ providerShape.members) :
      ((Json.fields memberNames octets).map Prod.fst).count m.name = (m.filled draft).toNat := by
    have counted := lawful.count_of_takes member takes
    rwa [blank m member] at counted
  -- A missing or a repeated field contradicts the count for its member, and what is no string is
  -- nothing that its member takes.
  rintro (⟨name, needed, absent⟩ | ⟨name, known, repeated⟩ | ⟨⟨name, place⟩, field, known, other⟩)
  · obtain ⟨m, member, rfl, need⟩ := required name needed
    have none := count member
    rw [List.count_eq_zero.mpr absent,
      Json.Shape.missing?_eq_none_iff.mp complete m member need] at none
    cases none
  · obtain ⟨m, member, rfl⟩ := named name known
    rw [count member] at repeated
    exact absurd (Bool.toNat_le _) (Nat.not_le.mpr repeated)
  · obtain ⟨m, member, rfl⟩ := named name known
    obtain ⟨record, filled, behind, fill⟩ := lawful.fill_of_takes member takes field
    obtain ⟨s, read, -⟩ := readString_of_fill member fill
    obtain ⟨text, quote, -⟩ := Json.quote_of_readString read
    rw [quote] at other
    exact other rfl

/-- Provider settings go through JSON unharmed.  Whatever strings they are made of, they come back
    from their JSON form with all parts equal, so with the same scopes and the same JSON form.  A
    text in which a required part is missing, a part is repeated, or a part is not a string is
    refused, be it an object or a list. -/
theorem Provider.json_exact :
    (∀ provider : Provider, ∃ again, ofJson provider.json = .ok again ∧ again = provider ∧
      again.scopes = provider.scopes ∧ again.json = provider.json) ∧
    ∀ text : String, AtFault (Json.fields memberNames (Utf8.octets text)) →
      ∃ fault, ofJson text = .error fault := by
  refine ⟨fun provider => ⟨provider, provider.ofJson_json, rfl, rfl, rfl⟩, fun text faulty => ?_⟩
  cases read : ofJson text with
  | error fault => exact ⟨fault, rfl⟩
  | ok provider =>
    obtain ⟨rest, read, -⟩ := Json.read_eq_ok_iff.mp read
    obtain ⟨⟨draft, behind⟩, shape, -⟩ := exists_of_map_eq_ok read
    exact absurd faulty (not_atFault_of_read shape)

/-- The scopes are there twice, once under an escaped name. -/
theorem Provider.json_exact_twice :
    let text := "\x7b\"client_id\":\"a\",\"client_secret\":\"b\",\"redirect_url\":\"c\"," ++
      "\"authorize_url\":\"d\",\"token_url\":\"e\",\"user_info_url\":\"f\"," ++
      "\"scopes\":\"\",\"s\\u0063opes\":\"x\"\x7d"
    AtFault (Json.fields memberNames (Utf8.octets text)) ∧
      ∃ fault, ofJson text = .error fault :=
  have twice := by decide +kernel
  ⟨twice, json_exact.2 _ twice⟩

end Gatehouse.Oidc
