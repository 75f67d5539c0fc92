import Gatehouse.Metrics.Counter
import Mathlib.Algebra.Group.Nat.Defs
import Mathlib.Data.List.Count
import Mathlib.Data.List.Nodup
import Mathlib.Data.List.Range

/-!
# Requests that are counted at the same time

The two steps in which each request is counted may interleave in any way with those of the
others.  Whatever the order, the count that a scrape shows is ahead of the one that
numbers the requests by the requests between their two steps, and the numbers come in
turn.  The cells of a counter have 64 bits, and below that bound they hold the counts.
-/

namespace Gatehouse.Metrics

namespace CountStep

/-- Whether a step is one that gives a request its number. -/
def isTotal : CountStep → Bool
  | exported _ => false
  | total _ => true

/-- Whether a request has a step before it: the first one where all its increments so far are
    complete, the second one where its last increment is between its two steps. -/
def IsDue (past : List CountStep) : CountStep → Prop
  | exported request => past.count (exported request) = past.count (total request)
  | total request => past.count (exported request) = past.count (total request) + 1

end CountStep

/-- Whether steps are those of increments in some interleaving: each step is one that its request
    has before it. -/
def IsInterleaving (steps : List CountStep) : Prop :=
  ∀ past step later, steps = past ++ step :: later → step.IsDue past

theorem isInterleaving_nil : IsInterleaving [] := by
  intro past step later split
  cases past <;> cases split

theorem isInterleaving_concat {steps : List CountStep} {step : CountStep} :
    IsInterleaving (steps ++ [step]) ↔ IsInterleaving steps ∧ step.IsDue steps := by
  constructor
  · intro interleaving
    refine ⟨fun past other later split => ?_, interleaving steps step [] rfl⟩
    exact interleaving past other (later ++ [step]) (by rw [split, List.append_assoc]; rfl)
  · rintro ⟨interleaving, due⟩ past other later split
    rcases List.eq_nil_or_concat' later with rfl | ⟨front, last, rfl⟩
    · obtain ⟨rfl, same⟩ := List.append_inj' split rfl
      obtain rfl : step = other := by simpa using same
      exact due
    · rw [← List.cons_append, ← List.append_assoc] at split
      exact interleaving past other front (List.append_inj' split rfl).1

namespace Counting

/-- What is true of a counter of `n` requests after steps of further ones. -/
structure IsAfter (n : Nat) (steps : List CountStep) (counting : Counting) : Prop where
  /-- No increment is between its two steps twice. -/
  nodup : counting.between.Nodup
  /-- The increments that a request has begun are those that are complete, and one more if it is
      between two steps. -/
  between : ∀ request, steps.count (.exported request) =
    steps.count (.total request) + counting.between.count request
  total : counting.counter.total = n + steps.countP CountStep.isTotal
  exported : counting.counter.exported = counting.counter.total + counting.between.length
  /-- The numbers come in turn. -/
  numbers : counting.numbers.reverse = List.range' (n + 1) (steps.countP CountStep.isTotal)

variable {n : Nat} {steps : List CountStep} {step : CountStep} {counting next : Counting}

theorem isAfter_nil (n : Nat) : (ofCounter ⟨n, n⟩).IsAfter n [] where
  nodup := List.nodup_nil
  between _ := rfl
  total := rfl
  exported := rfl
  numbers := rfl

namespace IsAfter

theorem isDue_exported (after : counting.IsAfter n steps) {request : Nat} :
    CountStep.IsDue steps (.exported request) ↔ request ∉ counting.between := by
  rw [CountStep.IsDue, after.between, ← List.count_eq_zero]
  omega

theorem isDue_total (after : counting.IsAfter n steps) {request : Nat} :
    CountStep.IsDue steps (.total request) ↔ request ∈ counting.between := by
  have once := List.nodup_iff_count_le_one.mp after.nodup request
  rw [CountStep.IsDue, after.between, ← List.count_pos_iff]
  omega

/-- A step is possible where the request has it before it, and only there. -/
theorem isSome_step? (after : counting.IsAfter n steps) :
    (counting.step? step).isSome ↔ step.IsDue steps := by
  cases step with
  | exported request =>
    rw [after.isDue_exported, step?]
    split <;> simp_all
  | total request =>
    rw [after.isDue_total, step?]
    split <;> simp_all

theorem after_step? (after : counting.IsAfter n steps) (done : counting.step? step = some next) :
    next.IsAfter n (steps ++ [step]) := by
  cases step with
  | exported request =>
    rw [step?] at done
    split at done
    · cases done
    · next fresh =>
      cases done
      refine ⟨List.nodup_cons.mpr ⟨fresh, after.nodup⟩, fun other => ?_, ?_, ?_, ?_⟩
      · have before := after.between other
        by_cases same : request = other
        · subst same
          simp [List.count_append, before]
          omega
        · simp [List.count_append, before, same]
      · simpa [Counter.countExported, CountStep.isTotal] using after.total
      · have before := after.exported
        simp only [Counter.countExported, List.length_cons]
        omega
      · simpa [CountStep.isTotal] using after.numbers
  | total request =>
    rw [step?] at done
    split at done
    · next begun =>
      cases done
      have more : (steps ++ [CountStep.total request]).countP CountStep.isTotal =
          steps.countP CountStep.isTotal + 1 := by
        rw [List.countP_append]
        rfl
      have before := after.total
      refine ⟨after.nodup.erase _, fun other => ?_, ?_, ?_, ?_⟩
      · have counts := after.between other
        have positive := List.count_pos_iff.mpr begun
        by_cases same : request = other
        · subst same
          simp [List.count_append, counts]
          omega
        · simp [List.count_append, counts, same,
            List.count_erase_of_ne (Ne.symm same)]
      · simp only [Counter.countTotal, more]
        omega
      · have ahead := after.exported
        have positive := List.length_pos_of_mem begun
        simp only [Counter.countTotal, List.length_erase_of_mem begun]
        omega
      · rw [List.reverse_cons, after.numbers, more, List.range'_concat, Counter.countTotal, before]
        simp only [Nat.one_mul, Nat.add_right_comm]
    · cases done

/-- The count that a scrape shows is never behind. -/
theorem total_le (after : counting.IsAfter n steps) :
    counting.counter.total ≤ counting.counter.exported := by
  rw [after.exported]
  exact Nat.le_add_right _ _

/-- Both counts are the same once every increment is complete. -/
theorem exported_eq_total (after : counting.IsAfter n steps)
    (complete : ∀ request, steps.count (.exported request) = steps.count (.total request)) :
    counting.counter.exported = counting.counter.total := by
  have none : counting.between = [] := by
    rw [List.eq_nil_iff_forall_not_mem]
    intro request
    exact after.isDue_exported.mp (complete request)
  rw [after.exported, none, List.length_nil, Nat.add_zero]

end IsAfter

/-- Steps can be done in turn just where they interleave, and what they leave is what they are
    said to. -/
theorem run?_ofCounter (n : Nat) (steps : List CountStep) :
    ((ofCounter ⟨n, n⟩).run? steps = none ↔ ¬IsInterleaving steps) ∧
      ∀ counting, (ofCounter ⟨n, n⟩).run? steps = some counting → counting.IsAfter n steps := by
  -- By induction from the front on: whether a step is due depends on those before it.
  induction steps using List.reverseRecOn with
  | nil =>
    refine ⟨iff_of_false (fun failed => by cases failed) (not_not_intro isInterleaving_nil), ?_⟩
    rintro _ ⟨⟩
    exact isAfter_nil n
  | append_singleton steps step ih =>
    obtain ⟨possible, after⟩ := ih
    rw [run?, List.foldlM_append, ← run?, isInterleaving_concat]
    cases result : (ofCounter ⟨n, n⟩).run? steps with
    | none => simp [possible.mp result]
    | some counting =>
      have interleaving : IsInterleaving steps := by
        rw [← not_not (a := IsInterleaving steps), ← possible, result]
        simp
      have before := after counting result
      simp only [Option.bind_eq_bind, Option.bind_some, List.foldlM_cons, List.foldlM_nil]
      refine ⟨?_, fun next done => ?_⟩
      · rw [← before.isSome_step?]
        cases counting.step? step <;> simp [interleaving]
      · cases reached : counting.step? step with
        | none => simp [reached] at done
        | some later =>
          obtain rfl : later = next := by simpa [reached] using done
          exact before.after_step? reached

end Counting

/-- The two cells of 64 bits in which a counter is kept. -/
structure Cells where
  exported : UInt64
  total : UInt64
deriving DecidableEq, Repr

namespace Counter

/-- The cells of a counter.  A count for which a cell has no room begins again at zero there. -/
def cells (counter : Counter) : Cells :=
  ⟨.ofNat counter.exported, .ofNat counter.total⟩

theorem cells_countExported (counter : Counter) : counter.countExported.cells =
    { counter.cells with exported := counter.cells.exported + 1 } := by
  simp [cells, countExported]

theorem cells_countTotal (counter : Counter) : counter.countTotal.cells =
    { counter.cells with total := counter.cells.total + 1 } := by
  simp [cells, countTotal]

/-- Both cells hold a count for which they have room. -/
theorem toNat_cells {counter : Counter} {count : Nat} (room : count < 2 ^ 64)
    (exported : counter.exported = count) (total : counter.total = count) :
    counter.cells.exported.toNat = count ∧ counter.cells.total.toNat = count := by
  rw [cells, exported, total]
  exact ⟨UInt64.toNat_ofNat_of_lt' room, UInt64.toNat_ofNat_of_lt' room⟩

end Counter

end Gatehouse.Metrics
