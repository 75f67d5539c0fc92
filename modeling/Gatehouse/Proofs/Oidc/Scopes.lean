import Gatehouse.Oidc.Provider
import Gatehouse.Proofs.Text.Words
import Mathlib.Data.List.Count
import Mathlib.Data.List.Nodup

/-!
# Scopes in the making

A builder keeps its scopes as separate entries, and the finished settings keep them as one text
that is cut at white space again.  So the scopes to ask for are the words of the entries, and an
entry that is added puts its words behind them.
-/

namespace Gatehouse

namespace Text

/-- At a space a text comes apart, and its words are those of both sides. -/
theorem words_append_space (s t : String) : words (s ++ " " ++ t) = words s ++ words t := by
  have space : isBlank ' ' = true := by decide
  have cut : (s ++ " " ++ t).toList = s.toList ++ ' ' :: t.toList := by simp
  rw [words, cut, splitBy_append_separator _ _ space, List.filter_append, List.map_append]
  rfl

/-- The words of joined texts are those of each text. -/
theorem words_joinWith_space (ss : List String) : words (joinWith " " ss) = ss.flatMap words := by
  induction ss with
  | nil => rfl
  | cons s rest ih =>
    cases rest with
    | nil => simp [joinWith]
    | cons t rest =>
      rw [joinWith, words_append_space, ih]
      rfl

theorem words_of_isWord {s : String} (word : IsWord s) : words s = [s] := by
  have alone : ∀ w ∈ [s], IsWord w := by simpa using word
  simpa [joinWith] using words_joinWith alone

end Text

namespace Oidc

open Text (IsWord)

/-- The scopes that an entry asks for: its words besides the scope of the login itself. -/
def scopesOf (entry : String) : List String :=
  (Text.words entry).filter (· != loginScope)

/-- A step that adds a scope adds a single word. -/
def BuildStep.AddsWord : BuildStep → Prop
  | .addScope scope => IsWord scope
  | _ => True

namespace Builder

variable (builder : Builder) (scope : String)

/-- The scopes to ask for are those of the entries. -/
theorem scopes_build : builder.build.scopes = builder.scopes.flatMap scopesOf := by
  rw [Provider.scopes, build, Text.words_joinWith_space, List.filter_flatMap]
  rfl

theorem addScope_of_mem {builder : Builder} {scope : String} (member : scope ∈ builder.scopes) :
    builder.addScope scope = builder := by
  rw [addScope, if_pos (List.contains_iff_mem.mpr member)]

theorem scopes_addScope_of_not_mem {builder : Builder} {scope : String}
    (absent : scope ∉ builder.scopes) :
    (builder.addScope scope).scopes = builder.scopes ++ [scope] := by
  rw [addScope, if_neg (by simpa using absent)]

theorem mem_scopes_addScope : scope ∈ (builder.addScope scope).scopes := by
  by_cases member : scope ∈ builder.scopes
  · rw [addScope_of_mem member]
    exact member
  · simp [scopes_addScope_of_not_mem member]

/-- A new entry puts its scopes behind the ones that were there. -/
theorem scopes_build_addScope_of_not_mem {builder : Builder} {scope : String}
    (absent : scope ∉ builder.scopes) :
    (builder.addScope scope).build.scopes = builder.build.scopes ++ scopesOf scope := by
  rw [scopes_build, scopes_build, scopes_addScope_of_not_mem absent, List.flatMap_append,
    List.flatMap_singleton]

/-- What adding a scope leaves as it is: the scopes in front, the other settings, and everything
    if the scope is added once more. -/
structure AddsBehind : Prop where
  kept : builder.build.scopes <+: (builder.addScope scope).build.scopes
  again : (builder.addScope scope).addScope scope = builder.addScope scope
  others : (builder.addScope scope).build =
    { builder.build with scopesText := (builder.addScope scope).build.scopesText }

/-- Adding a scope makes none more frequent than once or than it was. -/
def AddsOnce : Prop :=
  ∀ asked, (builder.addScope scope).build.scopes.count asked ≤
    max 1 (builder.build.scopes.count asked)

theorem addsBehind : builder.AddsBehind scope where
  kept := by
    by_cases member : scope ∈ builder.scopes
    · simp only [addScope_of_mem member, List.prefix_rfl]
    · rw [scopes_build_addScope_of_not_mem member]
      exact List.prefix_append _ _
  again := addScope_of_mem (builder.mem_scopes_addScope scope)
  others := by
    rw [addScope]
    split
    · rfl
    · rfl

/-- Behind other elements no element becomes too frequent just when the new ones are different from
    each other and from those in front. -/
theorem count_append_le_iff {front back : List String} :
    (∀ x, (front ++ back).count x ≤ max 1 (front.count x)) ↔
      back.Nodup ∧ ∀ x ∈ back, x ∉ front := by
  constructor
  · intro few
    have apart : ∀ x ∈ back, x ∉ front := by
      intro x behind before
      have bound := few x
      have first := List.count_pos_iff.mpr before
      have second := List.count_pos_iff.mpr behind
      rw [List.count_append] at bound
      omega
    refine ⟨List.nodup_iff_count_le_one.mpr fun x => ?_, apart⟩
    by_cases behind : x ∈ back
    · have bound := few x
      rw [List.count_append, List.count_eq_zero_of_not_mem (apart x behind)] at bound
      omega
    · rw [List.count_eq_zero_of_not_mem behind]
      omega
  · rintro ⟨different, apart⟩ x
    rw [List.count_append]
    by_cases behind : x ∈ back
    · have once := List.nodup_iff_count_le_one.mp different x
      rw [List.count_eq_zero_of_not_mem (apart x behind)]
      omega
    · rw [List.count_eq_zero_of_not_mem behind]
      omega

theorem addsOnce_iff_of_not_mem {builder : Builder} {scope : String}
    (absent : scope ∉ builder.scopes) :
    builder.AddsOnce scope ↔
      (scopesOf scope).Nodup ∧ ∀ asked ∈ scopesOf scope, asked ∉ builder.build.scopes := by
  rw [AddsOnce, scopes_build_addScope_of_not_mem absent]
  exact count_append_le_iff

theorem addsOnce_of_mem {builder : Builder} {scope : String} (member : scope ∈ builder.scopes) :
    builder.AddsOnce scope := by
  intro asked
  rw [addScope_of_mem member]
  omega

/-- Every entry is a single word. -/
def IsWordy : Prop :=
  ∀ entry ∈ builder.scopes, IsWord entry

variable {builder}

theorem IsWordy.apply (wordy : builder.IsWordy) {step : BuildStep} (adds : step.AddsWord) :
    (builder.apply step).IsWordy := by
  cases step with
  | name | authorizeUrl | tokenUrl | apiBaseUrl | userInfoUrl => exact wordy
  | scopes text =>
    intro entry member
    exact Text.isWord_of_mem_words member
  | addScope scope =>
    intro entry member
    by_cases there : scope ∈ builder.scopes
    · rw [Builder.apply, addScope_of_mem there] at member
      exact wordy entry member
    · rw [Builder.apply, scopes_addScope_of_not_mem there] at member
      rcases List.mem_append.mp member with before | last
      · exact wordy entry before
      · rw [List.mem_singleton.mp last]
        exact adds

/-- Entries stay single words for as long as only words are added. -/
theorem IsWordy.run (wordy : builder.IsWordy) {steps : List BuildStep}
    (adds : ∀ step ∈ steps, step.AddsWord) : (steps.foldl Builder.apply builder).IsWordy := by
  induction steps generalizing builder with
  | nil => exact wordy
  | cons step steps ih =>
    rw [List.foldl_cons]
    exact ih (wordy.apply (adds step List.mem_cons_self)) fun later member =>
      adds later (List.mem_cons_of_mem _ member)

/-- Among single words a word is found before it is added a second time. -/
theorem IsWordy.addsOnce (wordy : builder.IsWordy) {scope : String} (word : IsWord scope) :
    builder.AddsOnce scope := by
  by_cases member : scope ∈ builder.scopes
  · exact addsOnce_of_mem member
  · have own : scopesOf scope = [scope].filter (· != loginScope) := by
      rw [scopesOf, Text.words_of_isWord word]
    rw [addsOnce_iff_of_not_mem member, own]
    refine ⟨(List.nodup_singleton scope).filter _, ?_⟩
    intro asked inside before
    obtain rfl := List.mem_singleton.mp (List.mem_of_mem_filter inside)
    rw [scopes_build] at before
    obtain ⟨entry, held, found⟩ := List.mem_flatMap.mp before
    rw [scopesOf, Text.words_of_isWord (wordy entry held)] at found
    obtain rfl := List.mem_singleton.mp (List.mem_of_mem_filter found)
    exact member held

/-- Adding a scope changes nothing but the scopes, which it continues, and adding it twice is adding
    it once.  A scope becomes more frequent than it may just when the entry is new and has it twice
    or beside an entry that has it; so none does as long as every entry is a single word. -/
theorem addScope_exact (clientId clientSecret redirectUrl : String) (steps : List BuildStep)
    (scope : String) :
    let builder := steps.foldl apply (start clientId clientSecret redirectUrl)
    builder.AddsBehind scope ∧
      (builder.AddsOnce scope ↔ scope ∈ builder.scopes ∨
        ((scopesOf scope).Nodup ∧ ∀ asked ∈ scopesOf scope, asked ∉ builder.build.scopes)) ∧
      ((∀ step ∈ steps, step.AddsWord) → IsWord scope → builder.AddsOnce scope) := by
  intro builder
  refine ⟨builder.addsBehind scope, ?_, ?_⟩
  · by_cases member : scope ∈ builder.scopes
    · exact iff_of_true (addsOnce_of_mem member) (.inl member)
    · rw [addsOnce_iff_of_not_mem member]
      exact (or_iff_right member).symm
  · intro adds word
    have started : (start clientId clientSecret redirectUrl).IsWordy := by
      intro entry member
      cases member
    exact (started.run adds).addsOnce word

/-- Words that are added behind the words of a text. -/
def wordSteps : List BuildStep :=
  [.scopes "openid  email", .addScope "groups"]

theorem addScope_exact_groups :
    (∀ step ∈ wordSteps, step.AddsWord) ∧ IsWord "groups" ∧
      (wordSteps.foldl apply (start "id" "secret" "http://localhost/callback")).AddsOnce
        "groups" := by
  have alone : "groups" ∈ Text.words "groups" := by decide +kernel
  have word : IsWord "groups" := Text.isWord_of_mem_words alone
  have adds : ∀ step ∈ wordSteps, step.AddsWord := by
    intro step member
    rcases List.mem_cons.mp member with rfl | last
    · trivial
    · rw [List.mem_singleton.mp last]
      exact word
  exact ⟨adds, word, (addScope_exact "id" "secret" "http://localhost/callback" wordSteps
    "groups").2.2 adds word⟩

/-- With a blank in front a scope is taken for another one, and asked for twice. -/
theorem not_addsOnce_padded :
    ¬ (([.scopes "email"] : List BuildStep).foldl apply
      (start "id" "secret" "http://localhost/callback")).AddsOnce " email" := by
  intro once
  exact absurd (once "email") (by decide +kernel)

end Builder

end Oidc

end Gatehouse
