import Gatehouse.Proofs.Metrics.Counting
import Gatehouse.Proofs.Metrics.Exposition
import Mathlib.Data.List.GetD

/-!
# What registries count

Every registry is created or a clone, and following the clones leads to the created
registry from which it stems.  Whatever is done, a registry counts the requests that were
counted through those that stem from the same one.
-/

namespace Gatehouse.Metrics

namespace Registries

/-! ## What happened

The steps that were done are given with the last one first. -/

/-- How many registries there are after steps. -/
def made : List Step → Nat
  | [] => 1
  | .new :: past | .clone _ :: past => made past + 1
  | .increment _ :: past | .get _ :: past | .render _ :: past => made past

/-- The registry that a number names after steps. -/
def named (past : List Step) (on : Nat) : Nat :=
  on % made past

/-- The created registry from which a registry stems: a clone stems from where the cloned one
    does, and each other registry from itself. -/
def root : List Step → Nat → Nat
  | [], registry => registry
  | .clone on :: past, registry =>
    if registry = made past then root past (named past on) else root past registry
  | .new :: past, registry | .increment _ :: past, registry | .get _ :: past, registry
  | .render _ :: past, registry => root past registry

/-- The registries through which requests were counted. -/
def through : List Step → List Nat
  | [] => []
  | .increment on :: past => named past on :: through past
  | .new :: past | .clone _ :: past | .get _ :: past | .render _ :: past => through past

/-- How many requests were counted through the registries that stem from the same one as the one
    named. -/
def counted (past : List Step) (on : Nat) : Nat :=
  (through past).countP (root past · == root past (named past on))

/-- What the next step answers. -/
def Tells (past : List Step) : Step → Answer → Prop
  | .new, answer | .clone _, answer => answer = .registries (made past + 1)
  | .increment on, answer => answer = .total (counted past on + 1)
  | .get on, answer => answer = .total (counted past on)
  | .render on, answer =>
    ∃ text, answer = .text text ∧ shown? requestCount text = some (counted past on)

/-- Whether each of the next steps has the answer that it is said to have. -/
def TellAll (past : List Step) : List Step → List Answer → Prop
  | [], answers => answers = []
  | step :: steps, answers =>
    ∃ answer others, answers = answer :: others ∧ Tells past step answer ∧
      TellAll (step :: past) steps others

variable {past : List Step} {registry other on : Nat}

theorem made_pos (past : List Step) : 0 < made past := by
  induction past with
  | nil => exact Nat.one_pos
  | cons step past ih => cases step <;> simp only [made] <;> omega

theorem named_lt (past : List Step) (on : Nat) : named past on < made past :=
  Nat.mod_lt on (made_pos past)

theorem named_of_lt (known : registry < made past) : named past registry = registry :=
  Nat.mod_eq_of_lt known

/-- A registry that is not there yet stems from no other one. -/
theorem root_of_made_le (unknown : made past ≤ registry) : root past registry = registry := by
  induction past with
  | nil => rfl
  | cons step past ih =>
    have earlier : made past ≤ registry := by
      cases step <;> simp only [made] at unknown <;> omega
    cases step with
    | clone on =>
      have later : registry ≠ made past := by
        simp only [made] at unknown
        omega
      rw [root, if_neg later, ih earlier]
    | new | increment | get | render => exact ih earlier

/-- The steps that add a registry. -/
inductive Adds : Step → Prop
  | new : Adds .new
  | clone (on : Nat) : Adds (.clone on)

namespace Adds

variable {step : Step}

theorem made_cons (adds : Adds step) : made (step :: past) = made past + 1 := by
  cases adds <;> rfl

theorem through_cons (adds : Adds step) : through (step :: past) = through past := by
  cases adds <;> rfl

/-- The registries that are there go on stemming from where they did. -/
theorem root_cons (adds : Adds step) (known : registry < made past) :
    root (step :: past) registry = root past registry := by
  cases adds with
  | new => rfl
  | clone on => exact if_neg known.ne

end Adds

theorem root_clone_made : root (.clone on :: past) (made past) = root past (named past on) :=
  if_pos rfl

theorem root_lt (known : registry < made past) : root past registry < made past := by
  induction past generalizing registry with
  | nil => exact known
  | cons step past ih =>
    have added (adds : Adds step) (front : root (step :: past) (made past) < made past + 1) :
        root (step :: past) registry < made (step :: past) := by
      rw [adds.made_cons] at known ⊢
      rcases Nat.lt_succ_iff_lt_or_eq.mp known with earlier | rfl
      · rw [adds.root_cons earlier]
        exact Nat.lt_succ_of_lt (ih earlier)
      · exact front
    cases step with
    | increment | get | render => exact ih known
    | new =>
      refine added .new ?_
      rw [root, root_of_made_le le_rfl]
      exact Nat.lt_succ_self _
    | clone on =>
      refine added (.clone on) ?_
      rw [root_clone_made]
      exact Nat.lt_succ_of_lt (ih (named_lt past on))

theorem lt_of_mem_through (member : other ∈ through past) : other < made past := by
  induction past with
  | nil => cases member
  | cons step past ih =>
    cases step with
    | increment on =>
      rcases List.mem_cons.mp member with rfl | earlier
      · exact named_lt past on
      · exact ih earlier
    | new | clone => exact Nat.lt_succ_of_lt (ih member)
    | get | render => exact ih member

/-- What was counted through a registry and those like it, where the registry is one that is
    there. -/
theorem counted_of_lt (known : registry < made past) :
    counted past registry = (through past).countP (root past · == root past registry) := by
  rw [counted, named_of_lt known]

theorem counted_named (past : List Step) (on : Nat) :
    counted past (named past on) = counted past on := by
  rw [counted_of_lt (named_lt past on), counted]

theorem Adds.countP_cons {step : Step} (adds : Adds step) (origin : Nat) :
    (through (step :: past)).countP (root (step :: past) · == origin) =
      (through past).countP (root past · == origin) := by
  rw [adds.through_cons]
  refine List.countP_congr fun other member => ?_
  rw [adds.root_cons (lt_of_mem_through member)]

/-- A registry that is added changes no count of the others. -/
theorem Adds.counted_cons {step : Step} (adds : Adds step) (known : registry < made past) :
    counted (step :: past) registry = counted past registry := by
  rw [counted_of_lt (adds.made_cons ▸ Nat.lt_succ_of_lt known), adds.countP_cons,
    adds.root_cons known, counted_of_lt known]

theorem counted_clone_made : counted (.clone on :: past) (made past) = counted past on := by
  rw [counted_of_lt (Nat.lt_succ_self _), (Adds.clone on).countP_cons, root_clone_made, counted]

theorem counted_new_made : counted (.new :: past) (made past) = 0 := by
  rw [counted_of_lt (Nat.lt_succ_self _), Adds.new.countP_cons, root, root_of_made_le le_rfl,
    List.countP_eq_zero]
  intro other member
  rw [beq_iff_eq]
  exact (root_lt (lt_of_mem_through member)).ne

theorem counted_increment (known : registry < made past) :
    counted (.increment on :: past) registry =
      counted past registry + if root past (named past on) = root past registry then 1 else 0 := by
  have there : registry < made (.increment on :: past) := known
  rw [counted_of_lt known, counted_of_lt there, through, List.countP_cons]
  simp only [root, beq_iff_eq]

/-! ## What the registries hold -/

variable {registries : Registries} {counters : List Counter} {added : Nat}

theorem family_of_lt (known : registry < registries.families.length) :
    registries.family registry = registries.families.getD registry 0 := by
  rw [family, Nat.mod_eq_of_lt known]

theorem family_append_of_lt (known : registry < registries.families.length) :
    (Registries.mk (registries.families ++ [added]) counters).family registry =
      registries.family registry := by
  rw [family_of_lt known, family_of_lt, List.getD_append _ _ _ _ known]
  rw [List.length_append]
  exact Nat.lt_add_right _ known

theorem family_append_length :
    (Registries.mk (registries.families ++ [added]) counters).family registries.families.length =
      added := by
  rw [family_of_lt, List.getD_append_right _ _ _ _ le_rfl, Nat.sub_self]
  · rfl
  · rw [List.length_append]
    exact Nat.lt_succ_self _

/-- Counting a request changes the counter of one family. -/
theorem counter_increment (known : registries.family on < registries.counters.length)
    (registry : Nat) : (registries.step (.increment on)).1.counter registry =
      if registries.family on = registries.family registry then
        (registries.counter on).increment
      else registries.counter registry := by
  change (registries.counters.set _ _).getD (registries.family registry) _ = _
  rw [List.getD_eq_getElem?_getD, List.getElem?_set]
  by_cases same : registries.family on = registries.family registry
  · rw [if_pos same, if_pos same, if_pos (same ▸ known)]
    rfl
  · rw [if_neg same, if_neg same, ← List.getD_eq_getElem?_getD]
    rfl

/-- What is true of registries after steps. -/
structure Follows (past : List Step) (registries : Registries) : Prop where
  length : registries.families.length = made past
  known : ∀ registry < made past, registries.family registry < registries.counters.length
  /-- Two registries share a counter just where they stem from the same one. -/
  kin : ∀ registry < made past, ∀ other < made past,
    (registries.family registry = registries.family other ↔ root past registry = root past other)
  /-- Both counts of a registry are what was counted through those like it. -/
  counter : ∀ registry < made past,
    registries.counter registry = ⟨counted past registry, counted past registry⟩

theorem follows_start : Follows [] start where
  length := rfl
  known registry one := by
    rw [Nat.lt_one_iff.mp one]
    exact Nat.one_pos
  kin registry one other same := by
    rw [Nat.lt_one_iff.mp one, Nat.lt_one_iff.mp same]
    exact iff_of_true rfl rfl
  counter registry one := by
    rw [Nat.lt_one_iff.mp one]
    rfl

namespace Follows

theorem family_named (follows : Follows past registries) (on : Nat) :
    registries.family (named past on) = registries.family on := by
  rw [family, family, follows.length, named, Nat.mod_mod]

/-- Both counts of the registry that a number names are what was counted through those like it. -/
theorem counter_eq (follows : Follows past registries) (on : Nat) :
    registries.counter on = ⟨counted past on, counted past on⟩ := by
  rw [← counted_named, ← follows.counter _ (named_lt past on), Registries.counter,
    Registries.counter, follows.family_named]

/-- A registry is added with a family: one that is new, or that of the registries from which it is
    to stem. -/
theorem append (follows : Follows past registries) {step : Step} (adds : Adds step)
    (kept : ∀ family < registries.counters.length,
      family < counters.length ∧ counters.getD family .zero = registries.counters.getD family .zero)
    (known : added < counters.length)
    (kin : ∀ other < made past,
      (registries.family other = added ↔ root past other = root (step :: past) (made past)))
    (counter : counters.getD added .zero =
      ⟨counted (step :: past) (made past), counted (step :: past) (made past)⟩) :
    Follows (step :: past) ⟨registries.families ++ [added], counters⟩ := by
  have old {registry : Nat} (earlier : registry < made past) :
      (Registries.mk (registries.families ++ [added]) counters).family registry =
        registries.family registry :=
    family_append_of_lt (follows.length.symm ▸ earlier)
  have last : (Registries.mk (registries.families ++ [added]) counters).family (made past) =
      added := by
    rw [← follows.length]
    exact family_append_length
  refine ⟨?_, ?_, ?_, ?_⟩
  · rw [List.length_append, follows.length, adds.made_cons]
    rfl
  · intro registry there
    rw [adds.made_cons, Nat.lt_succ_iff_lt_or_eq] at there
    rcases there with earlier | rfl
    · rw [old earlier]
      exact (kept _ (follows.known _ earlier)).1
    · rw [last]
      exact known
  · intro registry there other same
    rw [adds.made_cons, Nat.lt_succ_iff_lt_or_eq] at there same
    rcases there with earlier | rfl <;> rcases same with before | rfl
    · rw [old earlier, old before, adds.root_cons earlier, adds.root_cons before]
      exact follows.kin _ earlier _ before
    · rw [old earlier, last, adds.root_cons earlier]
      exact kin _ earlier
    · rw [old before, last, adds.root_cons before, eq_comm, kin _ before, eq_comm]
    · exact iff_of_true rfl rfl
  · intro registry there
    rw [adds.made_cons, Nat.lt_succ_iff_lt_or_eq] at there
    rcases there with earlier | rfl
    · rw [Registries.counter, old earlier, (kept _ (follows.known _ earlier)).2,
        adds.counted_cons earlier]
      exact follows.counter _ earlier
    · rw [Registries.counter, last]
      exact counter

theorem new (follows : Follows past registries) :
    Follows (.new :: past) (registries.step .new).1 := by
  refine follows.append .new (fun family there => ⟨?_, ?_⟩) ?_ (fun other earlier => ?_) ?_
  · rw [List.length_append]
    exact Nat.lt_succ_of_lt there
  · exact List.getD_append _ _ _ _ there
  · rw [List.length_append]
    exact Nat.lt_succ_self _
  · -- No registry has the new family, and none that is there stems from the new one.
    refine iff_of_false (follows.known _ earlier).ne ?_
    rw [root, root_of_made_le le_rfl]
    exact (root_lt earlier).ne
  · rw [counted_new_made, List.getD_append_right _ _ _ _ le_rfl, Nat.sub_self]
    rfl

theorem clone (follows : Follows past registries) (on : Nat) :
    Follows (.clone on :: past) (registries.step (.clone on)).1 := by
  refine follows.append (.clone on) (fun family there => ⟨there, rfl⟩) ?_
    (fun other earlier => ?_) ?_
  · rw [← follows.family_named]
    exact follows.known _ (named_lt past on)
  · rw [root_clone_made, ← follows.family_named on]
    exact follows.kin _ earlier _ (named_lt past on)
  · rw [counted_clone_made]
    exact follows.counter_eq on

theorem increment (follows : Follows past registries) (on : Nat) :
    Follows (.increment on :: past) (registries.step (.increment on)).1 := by
  have front := follows.known _ (named_lt past on)
  rw [follows.family_named] at front
  refine ⟨follows.length, fun registry there => ?_, follows.kin, fun registry there => ?_⟩
  · rw [step, List.length_set]
    exact follows.known _ there
  · have there : registry < made past := there
    have kin := follows.kin _ (named_lt past on) _ there
    rw [follows.family_named] at kin
    rw [counter_increment front, counted_increment there]
    by_cases same : root past (named past on) = root past registry
    · have equal : counted past on = counted past registry := by
        rw [counted_of_lt there, counted, same]
      rw [if_pos (kin.mpr same), if_pos same, follows.counter_eq, equal]
      rfl
    · rw [if_neg (mt kin.mp same), if_neg same]
      exact follows.counter _ there

protected theorem step (follows : Follows past registries) (step : Step) :
    Follows (step :: past) (registries.step step).1 := by
  cases step with
  | new => exact follows.new
  | clone on => exact follows.clone on
  | increment on => exact follows.increment on
  | get | render =>
    exact ⟨follows.length, follows.known, follows.kin, follows.counter⟩

theorem tells (follows : Follows past registries) (step : Step) :
    Tells past step (registries.step step).2 := by
  cases step with
  | new | clone => exact congrArg (fun length => Answer.registries (length + 1)) follows.length
  | increment on | get on =>
    rw [Registries.step, follows.counter_eq]
    rfl
  | render on =>
    refine ⟨_, rfl, ?_⟩
    rw [shown?_render, follows.counter_eq]

theorem run (follows : Follows past registries) (steps : List Step) :
    TellAll past steps (registries.run steps).2 ∧
      Follows (steps.reverse ++ past) (registries.run steps).1 := by
  induction steps generalizing past registries with
  | nil => exact ⟨rfl, follows⟩
  | cons step steps ih =>
    obtain ⟨answers, last⟩ := ih (follows.step step)
    refine ⟨⟨_, _, rfl, follows.tells step, answers⟩, ?_⟩
    rw [List.reverse_cons, List.append_assoc]
    exact last

/-- Counting a request leaves the counter of each registry that stems from another one as it is. -/
theorem counter_of_root_ne (follows : Follows past registries)
    (other : root past (named past on) ≠ root past (named past registry)) :
    (registries.step (.increment on)).1.counter registry = registries.counter registry := by
  have known := follows.known _ (named_lt past on)
  have kin := follows.kin _ (named_lt past on) _ (named_lt past registry)
  rw [follows.family_named] at known
  rw [follows.family_named, follows.family_named] at kin
  rw [counter_increment known, if_neg (mt kin.mp other)]

end Follows

end Registries

/-- Whatever is done with registries, each answer is the one that follows from what happened before,
    and an increment changes no counter of another family.  Increments that overlap can be done in
    every interleaving of their steps and in no other order.  The count that a scrape shows is then
    ahead by those between their steps, the numbers come in turn, and once all increments are
    complete the two counts are the same. -/
theorem registries_tell_and_counts_agree :
    (∀ steps,
      Registries.TellAll [] steps (Registries.start.run steps).2 ∧
        ∀ on registry,
          Registries.root steps.reverse (Registries.named steps.reverse on) ≠
              Registries.root steps.reverse (Registries.named steps.reverse registry) →
            ((Registries.start.run steps).1.step (.increment on)).1.counter registry =
              (Registries.start.run steps).1.counter registry) ∧
      ∀ n steps,
        ((Counting.ofCounter ⟨n, n⟩).run? steps = none ↔ ¬IsInterleaving steps) ∧
          ∀ counting, (Counting.ofCounter ⟨n, n⟩).run? steps = some counting →
            counting.IsAfter n steps ∧ counting.counter.total ≤ counting.counter.exported ∧
              ((∀ request, steps.count (.exported request) = steps.count (.total request)) →
                counting.counter.exported = counting.counter.total) := by
  constructor
  · intro steps
    obtain ⟨answers, last⟩ := Registries.follows_start.run steps
    rw [List.append_nil] at last
    exact ⟨answers, fun on registry other => last.counter_of_root_ne other⟩
  · intro n steps
    obtain ⟨possible, after⟩ := Counting.run?_ofCounter n steps
    refine ⟨possible, fun counting done => ?_⟩
    have counts := after counting done
    exact ⟨counts, counts.total_le, counts.exported_eq_total⟩

/-- A clone of a registry beside another one, and two requests whose steps cross. -/
theorem registries_tell_and_counts_agree_clone_beside_new :
    ((Registries.start.run [.clone 0, .new, .increment 1]).1.step (.increment 2)).1.counter 0 =
        ⟨1, 1⟩ ∧
      (⟨⟨2, 2⟩, [], [2, 1]⟩ : Counting).IsAfter 0
        [.exported 7, .exported 8, .total 8, .total 7] := by
  obtain ⟨sequential, concurrent⟩ := registries_tell_and_counts_agree
  constructor
  · exact (sequential [.clone 0, .new, .increment 1]).2 2 0 (by decide)
  · exact ((concurrent 0 _).2 _ (by decide)).1

end Gatehouse.Metrics
