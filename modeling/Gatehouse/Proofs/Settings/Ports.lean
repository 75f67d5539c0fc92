import Gatehouse.App.Router
import Gatehouse.Proofs.Settings.Raw
import Gatehouse.Proofs.Settings.Variables
import Mathlib.Data.List.Induction
import Mathlib.Data.Nat.Digits.Defs

/-!
# Ports as they are written

A port that a variable writes as a decimal numeral is the number of this numeral, however
long it is: none is cut down to a smaller one, and one above the greatest port is refused.
-/

namespace Gatehouse

namespace Ascii

theorem isDigit_digitChar : ∀ d < 10, isDigit (Nat.digitChar d) = true := by decide

theorem toNat_digitChar : ∀ d < 10, (Nat.digitChar d).toNat - '0'.toNat = d := by decide

theorem natural?_map_digitChar {digits : List Nat} (filled : digits ≠ [])
    (bounds : ∀ d ∈ digits, d < 10) :
    natural? (digits.map Nat.digitChar) = some (Nat.ofDigits 10 digits.reverse) := by
  have all : (digits.map Nat.digitChar).all isDigit = true := by
    rw [List.all_map, List.all_eq_true]
    exact fun d member => isDigit_digitChar d (bounds d member)
  have value (start : Nat) :
      (digits.map Nat.digitChar).foldl (fun n c => n * 10 + (c.toNat - '0'.toNat)) start =
        digits.foldl (fun n d => d + 10 * n) start := by
    rw [List.foldl_map]
    refine List.foldl_ext _ _ start fun n d member => ?_
    rw [toNat_digitChar d (bounds d member)]
    omega
  have some : (digits.map Nat.digitChar).isEmpty = false := by simpa using filled
  rw [natural?, some, all, value, Nat.ofDigits_eq_foldr, List.foldr_reverse]
  rfl

end Ascii

namespace Text

/-- A text writes a number in decimal digits, perhaps with a plus sign or zeros in front. -/
def IsNumeral (s : String) (n : Nat) : Prop :=
  ∃ digits : List Nat, digits ≠ [] ∧ (∀ d ∈ digits, d < 10) ∧ n = Nat.ofDigits 10 digits.reverse ∧
    (s.toList = digits.map Nat.digitChar ∨ s.toList = '+' :: digits.map Nat.digitChar)

/-- A text of ASCII characters without capital letters is in lower case. -/
theorem lowercase_eq_self {s : String}
    (low : ∀ c ∈ s.toList, c.toNat < 0x80 ∧ Ascii.isUpper c = false) : lowercase s = s := by
  have after (before cs : List Char)
      (low : ∀ c ∈ cs, c.toNat < 0x80 ∧ Ascii.isUpper c = false) : lowerAfter before cs = cs := by
    induction cs generalizing before with
    | nil => rfl
    | cons c cs ih =>
      obtain ⟨ascii, small⟩ := low c List.mem_cons_self
      have other : c ≠ 'Σ' := by
        rintro rfl
        exact absurd ascii (by decide)
      rw [lowerAfter, ih _ fun d member => low d (List.mem_cons_of_mem _ member), if_neg other,
        lowerChar, if_pos ascii, Ascii.lower, small]
      rfl
  rw [lowercase, after _ _ low, String.ofList_toList]

/-- A property of the digits and of the plus sign holds throughout a numeral. -/
theorem IsNumeral.forall_mem {s : String} {n : Nat} (numeral : IsNumeral s n) {P : Char → Prop}
    (digit : ∀ d < 10, P (Nat.digitChar d)) (plus : P '+') : ∀ c ∈ s.toList, P c := by
  obtain ⟨digits, -, bounds, -, written⟩ := numeral
  have inside : ∀ c ∈ digits.map Nat.digitChar, P c := by
    intro c member
    obtain ⟨d, inside, rfl⟩ := List.mem_map.mp member
    exact digit d (bounds d inside)
  rcases written with plain | signed
  · rw [plain]
    exact inside
  · rw [signed]
    exact List.forall_mem_cons.mpr ⟨plus, inside⟩

end Text

namespace Settings

open Text (IsNumeral lowercase)

theorem digitChar_ne_plus : ∀ d < 10, Nat.digitChar d ≠ '+' := by decide

/-- A numeral is read as its number, if this has no more than 64 bits. -/
theorem number?_of_isNumeral {s : String} {n : Nat} (numeral : IsNumeral s n) :
    number? s = if n < Nat.pow 2 64 then some n else none := by
  have same : lowercase s = s := Text.lowercase_eq_self
    (numeral.forall_mem (P := fun c => c.toNat < 0x80 ∧ Ascii.isUpper c = false) (by decide)
      (by decide))
  have word {w : String} (letter : w.toList.any Ascii.isLetter = true) : lowercase s ≠ w := by
    rintro rfl
    rw [same, List.any_eq_true] at letter
    obtain ⟨c, member, letter⟩ := letter
    have other := numeral.forall_mem (P := fun c => Ascii.isLetter c = false) (by decide)
      (by decide) c member
    rw [letter] at other
    cases other
  unfold number?
  split
  · exact absurd ‹_› (word (by decide))
  · exact absurd ‹_› (word (by decide))
  · exact absurd ‹_› (word (by decide))
  · exact absurd ‹_› (word (by decide))
  · exact absurd ‹_› (word (by decide))
  · exact absurd ‹_› (word (by decide))
  · obtain ⟨digits, filled, bounds, rfl, plain | signed⟩ := numeral
    · have front : ∀ rest, digits.map Nat.digitChar ≠ '+' :: rest := by
        intro rest same
        obtain ⟨d, more, rfl, plus, -⟩ := List.map_eq_cons_iff.mp same
        exact digitChar_ne_plus d (bounds d List.mem_cons_self) plus
      rw [plain]
      simp only [Ascii.natural?_map_digitChar filled bounds]
    · rw [signed]
      simp only [Ascii.natural?_map_digitChar filled bounds]

/-- The port of a numeral is its number, which is that of a port. -/
theorem eq_some_of_port? {env : Variables} {name s : String} {n : Nat} {value : Option Nat}
    (holds : held? env name = some (.text s)) (numeral : IsNumeral s n)
    (read : port? env name = .ok value) : value = some n ∧ n ≤ 65535 := by
  rw [port?, holds] at read
  simp only [number?_of_isNumeral numeral] at read
  split at read
  · cases read
  · rename_i m found
    split at found
    · cases found
      split at read
      · cases read
        exact ⟨rfl, by assumption⟩
      · cases read
    · cases found

section Last

variable {env : Variables} {name s : String}

/-- A variable that sets a name to a text sets its own name in lower case to its value. -/
theorem place_of_text {given value : String} (text : (place given value).2 = .text s) :
    place given value = (lowercase given, .text value) := by
  unfold place at text ⊢
  dsimp only at text ⊢
  split at text
  · cases text
  · cases text
  · rw [String.ofList_toList]

theorem held?_concat (env : Variables) (given value name : String) :
    held? (env ++ [(given, value)]) name =
      if (place given value).1 = name then some (place given value).2 else held? env name := by
  simp only [held?, List.findRev?_eq_find?_reverse, List.map_append, List.map_cons, List.map_nil,
    List.reverse_append, List.reverse_cons, List.reverse_nil, List.nil_append, List.cons_append,
    List.find?_cons]
  split
  · rename_i same
    rw [if_pos (beq_iff_eq.mp same), Option.map_some]
  · rename_i other
    rw [if_neg (by simpa using other)]

theorem valuesOf_concat (env : Variables) (given value name : String) :
    valuesOf (env ++ [(given, value)]) name =
      valuesOf env name ++ if lowercase given = name then [value] else [] := by
  by_cases same : lowercase given = name
  · simp [valuesOf, List.filter_append, same]
  · simp [valuesOf, List.filter_append, same]

/-- The text that a known name holds is the value that its variables give last. -/
theorem getLast?_valuesOf_of_held? (known : name ∈ knownNames)
    (holds : held? env name = some (.text s)) : (valuesOf env name).getLast? = some s := by
  induction env using List.reverseRecOn with
  | nil => cases holds
  | append_singleton env last ih =>
    obtain ⟨given, value⟩ := last
    rw [held?_concat] at holds
    rw [valuesOf_concat]
    by_cases same : (place given value).1 = name
    · rw [if_pos same, Option.some_inj] at holds
      have placed := place_of_text holds
      rw [placed] at same holds
      cases holds
      rw [if_pos same, List.getLast?_concat]
    · rw [if_neg same] at holds
      have other : lowercase given ≠ name := by
        intro lower
        rw [place_of_isPlainName (isPlainName_of_known known lower)] at same
        exact same lower
      rw [if_neg other, List.append_nil, ih holds]

/-- A numeral that is given last for a known name is the port that is read there. -/
theorem eq_some_of_port?_of_getLast? {n : Nat} {value : Option Nat} (known : name ∈ knownNames)
    (last : (valuesOf env name).getLast? = some s) (numeral : IsNumeral s n)
    (read : port? env name = .ok value) : value = some n ∧ n ≤ 65535 := by
  obtain ⟨given, member, lower⟩ := mem_valuesOf.mp (List.mem_of_getLast? last)
  obtain ⟨held, holds⟩ := exists_held?_of_mem member (by
    rw [place_of_isPlainName (isPlainName_of_known known lower), lower])
  cases held with
  | text t =>
    rw [getLast?_valuesOf_of_held? known holds, Option.some_inj] at last
    exact eq_some_of_port? (last ▸ holds) numeral read
  | table =>
    rw [port?, holds] at read
    cases read
  | list =>
    rw [port?, holds] at read
    cases read

end Last

/-- A port that can be set by a variable. -/
inductive PortSetting where
  | application
  | metrics
  | mail
deriving DecidableEq, Repr

namespace PortSetting

/-- The variable that sets a port. -/
def variableName : PortSetting → String
  | application => "app_port"
  | metrics => "app_metrics_port"
  | mail => "smtp_port"

/-- A port of a configuration. -/
def port? (config : Config) : PortSetting → Option Nat
  | application => some config.port
  | metrics => some config.metrics.port
  | mail => config.mail.port

/-- Variables write a number as a port: the value that they give last to its variable, in whatever
    case its name is written, is a numeral of the number. -/
def IsWritten (setting : PortSetting) (env : Variables) (n : Nat) : Prop :=
  ∃ s, (valuesOf env setting.variableName).getLast? = some s ∧ IsNumeral s n

theorem variableName_known (setting : PortSetting) : setting.variableName ∈ knownNames := by
  rw [knownNames_eq]
  cases setting <;> simp [variableName]

/-- A port that is written is the one of the configuration. -/
theorem IsWritten.port?_eq {setting : PortSetting} {env : Variables} {n : Nat} {config : Config}
    (written : setting.IsWritten env n) (accepted : Config.ofVariables env = .ok config) :
    setting.port? config = some n ∧ n ≤ 65535 := by
  obtain ⟨s, last, numeral⟩ := written
  obtain ⟨raw, _, _, _, read, made⟩ := Config.exists_isMadeOf accepted
  have known := setting.variableName_known
  cases setting with
  | application =>
    obtain ⟨same, small⟩ := eq_some_of_port?_of_getLast? known last numeral read.port
    rw [port?, made.port, same]
    exact ⟨rfl, small⟩
  | metrics =>
    obtain ⟨same, small⟩ := eq_some_of_port?_of_getLast? known last numeral read.metricsPort
    rw [port?, made.metricsPort, same]
    exact ⟨rfl, small⟩
  | mail =>
    obtain ⟨same, small⟩ := eq_some_of_port?_of_getLast? known last numeral read.smtpPort
    rw [port?, made.mailPort, same]
    exact ⟨rfl, small⟩

end PortSetting

/-- The ports of an accepted configuration are the numbers that the variables write, and variables
    that write a number above the greatest port are refused.  So the metrics share the port of the
    application exactly if the same number is written for both. -/
theorem Config.ports_as_written (env : Variables) :
    (∀ (setting : PortSetting) (n : Nat), setting.IsWritten env n → 65535 < n →
      ∃ error, ofVariables env = .error error) ∧
    ∀ config, ofVariables env = .ok config →
      (∀ (setting : PortSetting) (n : Nat), setting.IsWritten env n →
        setting.port? config = some n) ∧
      ∀ m n, PortSetting.metrics.IsWritten env m → PortSetting.application.IsWritten env n →
        metricsPathFault? config.metrics.path (m == n) = none ∧
        ∀ state : App.State, state.config = config → state.sharesPort = (m == n) := by
  refine ⟨?_, ?_⟩
  · intro setting n written large
    cases accepted : ofVariables env with
    | error error => exact ⟨error, rfl⟩
    | ok config =>
      have small := (written.port?_eq accepted).2
      omega
  · intro config accepted
    refine ⟨fun setting n written => (written.port?_eq accepted).1, ?_⟩
    intro m n metrics application
    have metricsPort : config.metrics.port = m := Option.some_inj.mp (metrics.port?_eq accepted).1
    have port : config.port = n := Option.some_inj.mp (application.port?_eq accepted).1
    obtain ⟨_, _, _, _, -, made⟩ := exists_isMadeOf accepted
    have free := made.metricsPath
    rw [metricsPort, port] at free
    refine ⟨free, ?_⟩
    intro state same
    rw [App.State.sharesPort, same, metricsPort, port]

/-- The variables of an application with three ports. -/
def portVariables : Variables :=
  [("APP_BASE_URL", "http://localhost:8080/app"), ("APP_SECRET_KEY", "secret"),
    ("APP_OIDC_REDIRECT_PATH", "/callback"), ("App_Port", "+0008080"),
    ("APP_METRICS_PORT", "08080"), ("SMTP_PORT", "+65535")]

/-- Ports that are written with a sign and zeros are read as their numbers, and two servers share
    one although it is written differently for them. -/
theorem Config.ports_as_written_signed :
    ∃ config, ofVariables portVariables = .ok config ∧ config.port = 8080 ∧
      config.metrics.port = 8080 ∧ config.mail.port = some 65535 ∧
      ∀ state : App.State, state.config = config → state.sharesPort = true := by
  have shown : (ofVariables portVariables).toOption.isSome = true := by decide +kernel
  obtain ⟨config, found⟩ := Option.isSome_iff_exists.mp shown
  have accepted := eq_ok_of_toOption found
  have application : PortSetting.application.IsWritten portVariables 8080 :=
    ⟨"+0008080", by decide +kernel, [0, 0, 0, 8, 0, 8, 0], by decide, by decide, by decide,
      .inr (by decide)⟩
  have metrics : PortSetting.metrics.IsWritten portVariables 8080 :=
    ⟨"08080", by decide +kernel, [0, 8, 0, 8, 0], by decide, by decide, by decide,
      .inl (by decide)⟩
  have mail : PortSetting.mail.IsWritten portVariables 65535 :=
    ⟨"+65535", by decide +kernel, [6, 5, 5, 3, 5], by decide, by decide, by decide,
      .inr (by decide)⟩
  obtain ⟨ports, shared⟩ := (ports_as_written portVariables).2 config accepted
  refine ⟨config, accepted, Option.some_inj.mp (ports .application 8080 application),
    Option.some_inj.mp (ports .metrics 8080 metrics), ports .mail 65535 mail, ?_⟩
  intro state same
  exact (shared 8080 8080 metrics application).2 state same

/-- A number that has the bits of a port after those of a word is not cut down to it. -/
example : (Config.ofVariables
    [("APP_BASE_URL", "http://localhost:8080/app"), ("APP_SECRET_KEY", "secret"),
      ("APP_OIDC_REDIRECT_PATH", "/callback"),
      ("APP_PORT", "18446744073709559696")]).isOk = false := by
  decide +kernel

end Settings

end Gatehouse
