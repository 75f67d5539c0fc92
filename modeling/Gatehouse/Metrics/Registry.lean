import Gatehouse.Metrics.Counter

/-!
# Registries

Registries, each with a counter of requests that its clones share, and the text in which
a scrape shows the counter.
-/

namespace Gatehouse.Metrics

/-- The name of the counter. -/
def requestCount : String := "request_count"

/-- The media type of the text of a scrape. -/
def contentType : String := "text/plain; version=0.0.4"

/-- The text of a scrape of a counter. -/
def render (counter : Counter) : String :=
  "# HELP " ++ requestCount ++ " No of request handled\n# TYPE " ++ requestCount ++ " counter\n" ++
    requestCount ++ " " ++ toString counter.exported

/-- A number of registries.  Each is given by the family of clones that it belongs to, and each
    family by its counter. -/
structure Registries where
  families : List Nat
  counters : List Counter
deriving DecidableEq, Repr

/-- What is done with a number of registries; `on` names one of them. -/
inductive Step where
  /-- Adds a registry with a counter of its own. -/
  | new
  /-- Adds a registry that shares the counter of another one. -/
  | clone (on : Nat)
  /-- Counts one request. -/
  | increment (on : Nat)
  | get (on : Nat)
  | render (on : Nat)
deriving DecidableEq, Repr

/-- What a step answers. -/
inductive Answer where
  | registries (length : Nat)
  | total (count : Nat)
  | text (s : String)
deriving DecidableEq, Repr

namespace Registries

/-- One registry, which has counted nothing. -/
def start : Registries := ⟨[0], [.zero]⟩

/-- The family of the registry that a number names, which is taken modulo their number. -/
def family (registries : Registries) (on : Nat) : Nat :=
  registries.families.getD (on % registries.families.length) 0

/-- The counter of a registry. -/
def counter (registries : Registries) (on : Nat) : Counter :=
  registries.counters.getD (registries.family on) .zero

/-- Does one step. -/
def step (registries : Registries) : Step → Registries × Answer
  | .new =>
    (⟨registries.families ++ [registries.counters.length], registries.counters ++ [.zero]⟩,
      .registries (registries.families.length + 1))
  | .clone on =>
    (⟨registries.families ++ [registries.family on], registries.counters⟩,
      .registries (registries.families.length + 1))
  | .increment on =>
    let counter := (registries.counter on).increment
    (⟨registries.families, registries.counters.set (registries.family on) counter⟩,
      .total counter.total)
  | .get on => (registries, .total (registries.counter on).total)
  | .render on => (registries, .text (Metrics.render (registries.counter on)))

/-- Does steps in turn. -/
def run (registries : Registries) : List Step → Registries × List Answer
  | [] => (registries, [])
  | s :: steps =>
    let (next, answer) := registries.step s
    let (last, answers) := next.run steps
    (last, answer :: answers)

end Registries

end Gatehouse.Metrics
