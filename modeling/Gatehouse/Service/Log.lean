import Gatehouse.Text.Ascii
import Gatehouse.Text.Blank
import Gatehouse.Text.Quoted

/-!
# The log

Lines with a level, the part of the program that writes them, a message and fields.  A
filter, given as a text, decides which lines are written.
-/

namespace Gatehouse.Service

/-- The level of a line, from the most to the least urgent. -/
inductive Level where
  | error
  | warning
  | info
deriving DecidableEq, Repr

/-- The name of a level. -/
def Level.name : Level → String
  | .error => "ERROR"
  | .warning => "WARN"
  | .info => "INFO"

/-- How much has to be let through to see a level. -/
def Level.rank : Level → Nat
  | .error => 1
  | .warning => 2
  | .info => 3

/-- The part of the program that writes a line. -/
inductive Source where
  | program
  | application
  | server
  | telemetry
deriving DecidableEq, Repr

/-- The name of a part of the program. -/
def Source.name : Source → String
  | .program => "sample_app_server"
  | .application => "sample_app_server::app"
  | .server => "sample_app_server::server"
  | .telemetry => "sample_app_server::telemetry"

/-- A line of the log. -/
structure LogLine where
  level : Level
  source : Source
  message : String
  fields : List (String × String)
deriving DecidableEq, Repr

/-- The text of a line. -/
def LogLine.text (line : LogLine) : String :=
  line.fields.foldl (fun text (name, value) => text ++ " " ++ name ++ "=" ++ value)
    (line.level.name ++ " " ++ line.source.name ++ ": " ++ line.message)

/-- How much a filter lets through from the parts whose names begin with a text. -/
structure Directive where
  target : String
  rank : Nat
deriving DecidableEq, Repr

/-- A filter. -/
abbrev Filter := List Directive

namespace Filter

/-- How much the name of a level lets through. -/
def rank? (s : String) : Option Nat :=
  match Ascii.lowerString s with
  | "off" => some 0
  | "0" => some 0
  | "error" => some 1
  | "1" => some 1
  | "warn" => some 2
  | "2" => some 2
  | "info" => some 3
  | "3" => some 3
  | "debug" => some 4
  | "4" => some 4
  | "trace" => some 5
  | "5" => some 5
  | _ => none

/-- The rank that lets everything through. -/
def highestRank : Nat := 5

/-- Whether a character may stand in the name of a part. -/
def isTargetChar (c : Char) : Bool :=
  Ascii.isAlphanumeric c || c == '_' || c == ':' || c == '-'

/-- Whether a text may be the name of a part. -/
def isTarget (s : String) : Bool :=
  !s.isEmpty && s.toList.all isTargetChar

/-- One directive: a level, a part, or a part with a level. -/
def directive? (s : String) : Option Directive :=
  match rank? s with
  | some rank => some ⟨"", rank⟩
  | none =>
    match Text.cutAt? (· == '=') s.toList with
    | none => if isTarget s then some ⟨s, highestRank⟩ else none
    | some (target, level) =>
      if isTarget (.ofList target) then
        if level.isEmpty then some ⟨.ofList target, highestRank⟩
        else (rank? (.ofList level)).map fun rank => ⟨.ofList target, rank⟩
      else none

/-- The filter unless a readable one is given. -/
def usual : Filter := [⟨"", 3⟩, ⟨"tower_http", 4⟩]

/-- The filter that a text describes, in directives with commas between them.  An empty text lets
    errors through; one that cannot be read is as good as none. -/
def ofText (text : Option String) : Filter :=
  match text with
  | none => usual
  | some "" => [⟨"", 1⟩]
  | some s =>
    (((Text.splitBy (· == ',') s.toList).map String.ofList).mapM directive?).getD usual

/-- The directive that decides about a part: of those with the longest name, the last. -/
def deciding? (filter : Filter) (source : String) : Option Directive :=
  (filter.filter fun d => d.target.toList.isPrefixOf source.toList).foldl
    (fun best d =>
      match best with
      | some b => if b.target.length ≤ d.target.length then some d else best
      | none => some d)
    none

/-- Whether a line is written. -/
def lets (filter : Filter) (line : LogLine) : Bool :=
  match deciding? filter line.source.name with
  | some directive => line.level.rank ≤ directive.rank
  | none => false

end Filter

end Gatehouse.Service
