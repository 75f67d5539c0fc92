/-!
# Counting requests

A counter keeps its count twice: once where a scrape reads it, and once where a request
learns its own number.  A request is counted in two steps, first there and then here, and
steps of several requests may come in any order.  Counts are numbers without a bound here; the
cells in which they are kept have 64 bits, and hold every count below `2 ^ 64`.
-/

namespace Gatehouse.Metrics

/-- A counter of requests. -/
structure Counter where
  /-- The count that a scrape shows. -/
  exported : Nat
  /-- The count that numbers the requests. -/
  total : Nat
deriving DecidableEq, Repr

namespace Counter

/-- A counter that has counted nothing. -/
def zero : Counter := ⟨0, 0⟩

/-- The first step of counting a request. -/
def countExported (counter : Counter) : Counter :=
  { counter with exported := counter.exported + 1 }

/-- The second step of counting a request, after which `total` is its number. -/
def countTotal (counter : Counter) : Counter :=
  { counter with total := counter.total + 1 }

/-- Counts a request, in both steps. -/
def increment (counter : Counter) : Counter :=
  counter.countExported.countTotal

end Counter

/-- A step of one of several requests that are counted at the same time. -/
inductive CountStep where
  | exported (request : Nat)
  | total (request : Nat)
deriving DecidableEq, Repr

/-- A counter while several requests are counted. -/
structure Counting where
  counter : Counter
  /-- The requests between their two steps. -/
  between : List Nat
  /-- The numbers that requests have got, the last one first. -/
  numbers : List Nat
deriving DecidableEq, Repr

namespace Counting

/-- A counter at which no request is being counted. -/
def ofCounter (counter : Counter) : Counting :=
  ⟨counter, [], []⟩

/-- Does a step, if it is one that the request has before it. -/
def step? (counting : Counting) : CountStep → Option Counting
  | .exported request =>
    if request ∈ counting.between then none
    else
      some
        { counting with
          counter := counting.counter.countExported
          between := request :: counting.between }
  | .total request =>
    if request ∈ counting.between then
      let counter := counting.counter.countTotal
      some ⟨counter, counting.between.erase request, counter.total :: counting.numbers⟩
    else none

/-- Does steps in turn, if each of them is possible. -/
def run? (counting : Counting) (steps : List CountStep) : Option Counting :=
  steps.foldlM step? counting

end Counting

end Gatehouse.Metrics
