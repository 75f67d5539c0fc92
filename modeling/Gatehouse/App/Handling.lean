import Gatehouse.Metrics.Counter

/-!
# Handling a request step by step

What a handler does until it has a result.  The only steps that other requests notice are
those that count its own request; a handler counts where its body says so, and on the ways
through it on which the body says so.
-/

namespace Gatehouse.App

/-- What is done until there is a result. -/
inductive Handling (α : Type) where
  | done (result : α)
  /-- Counts the request where a scrape shows it, and goes on. -/
  | countExported (next : Handling α)
  /-- Counts the request where it gets its number, and goes on. -/
  | countTotal (next : Handling α)

namespace Handling

variable {α β : Type}

/-- Counts the request, in both steps, and goes on. -/
def count (next : Handling α) : Handling α :=
  .countExported (.countTotal next)

/-- The result that there is at the end. -/
def result : Handling α → α
  | .done result => result
  | .countExported next => next.result
  | .countTotal next => next.result

/-- The same steps up to another result. -/
def map (f : α → β) : Handling α → Handling β
  | .done result => .done (f result)
  | .countExported next => .countExported (next.map f)
  | .countTotal next => .countTotal (next.map f)

/-- Does all steps in turn: the result, and what has been counted by then. -/
def run : Handling α → Metrics.Counter → α × Metrics.Counter
  | .done result, counter => (result, counter)
  | .countExported next, counter => next.run counter.countExported
  | .countTotal next, counter => next.run counter.countTotal

end Handling

end Gatehouse.App
