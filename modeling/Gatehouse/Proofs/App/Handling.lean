import Gatehouse.App.Handling

/-!
# What a handling comes to

Its result does not depend on what has been counted, and it adds to each count as often as
it counts there.
-/

namespace Gatehouse.App.Handling

variable {α β : Type}

/-- How often a request is counted where a scrape shows it. -/
def exports : Handling α → Nat
  | .done _ => 0
  | .countExported next => next.exports + 1
  | .countTotal next => next.exports

/-- How often a request is counted where it gets its number. -/
def totals : Handling α → Nat
  | .done _ => 0
  | .countExported next => next.totals
  | .countTotal next => next.totals + 1

@[simp] theorem result_done (result : α) : (done result).result = result := rfl

@[simp] theorem result_count (next : Handling α) : next.count.result = next.result := rfl

@[simp] theorem result_map (f : α → β) (handling : Handling α) :
    (handling.map f).result = f handling.result := by
  induction handling with
  | done result => rfl
  | countExported next ih => exact ih
  | countTotal next ih => exact ih

@[simp] theorem exports_map (f : α → β) (handling : Handling α) :
    (handling.map f).exports = handling.exports := by
  induction handling with
  | done result => rfl
  | countExported next ih => exact congrArg (· + 1) ih
  | countTotal next ih => exact ih

@[simp] theorem totals_map (f : α → β) (handling : Handling α) :
    (handling.map f).totals = handling.totals := by
  induction handling with
  | done result => rfl
  | countExported next ih => exact ih
  | countTotal next ih => exact congrArg (· + 1) ih

/-- What a handling comes to, and what it adds to the counts. -/
theorem run_eq (handling : Handling α) (counter : Metrics.Counter) :
    handling.run counter =
      (handling.result,
        ⟨counter.exported + handling.exports, counter.total + handling.totals⟩) := by
  induction handling generalizing counter with
  | done result => rfl
  | countExported next ih =>
    rw [run, ih, Metrics.Counter.countExported, exports, Nat.add_assoc, Nat.add_comm 1]
    rfl
  | countTotal next ih =>
    rw [run, ih, Metrics.Counter.countTotal, totals, Nat.add_assoc, Nat.add_comm 1]
    rfl

end Gatehouse.App.Handling
