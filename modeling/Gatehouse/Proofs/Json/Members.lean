import Gatehouse.Json.Value

/-!
# Members in the order of their names

Members are kept sorted, each name once.  What is kept comes from the members that were added, and
members that are sorted already are kept as they are.
-/

namespace Gatehouse.Json

variable {α : Type} {name : String} {value : α} {members : List (String × α)}

theorem mem_insertMember {member : String × α} (inside : member ∈ insertMember name value members) :
    member = (name, value) ∨ member ∈ members := by
  induction members with
  | nil => exact .inl (List.mem_singleton.mp inside)
  | cons first rest ih =>
    obtain ⟨other, held⟩ := first
    rw [insertMember] at inside
    split at inside
    · exact (List.mem_cons.mp inside).imp_right (List.mem_cons_of_mem _)
    split at inside
    · exact List.mem_cons.mp inside
    · rcases List.mem_cons.mp inside with rfl | inside
      · exact .inr List.mem_cons_self
      · exact (ih inside).imp_right (List.mem_cons_of_mem _)

theorem pairwise_insertMember (name : String) (value : α) (sorted : members.Pairwise (·.1 < ·.1)) :
    (insertMember name value members).Pairwise (·.1 < ·.1) := by
  induction members with
  | nil => exact List.pairwise_singleton _ _
  | cons first rest ih =>
    obtain ⟨other, held⟩ := first
    obtain ⟨above, below⟩ := List.pairwise_cons.mp sorted
    rw [insertMember]
    split
    · rename_i same
      subst same
      exact List.pairwise_cons.mpr ⟨above, below⟩
    rename_i different
    split
    · rename_i less
      refine List.pairwise_cons.mpr ⟨fun member inside => ?_, sorted⟩
      rcases List.mem_cons.mp inside with rfl | inside
      · exact less
      · exact String.lt_trans less (above member inside)
    · rename_i notLess
      refine List.pairwise_cons.mpr ⟨fun member inside => ?_, ih below⟩
      rcases mem_insertMember inside with rfl | inside
      · exact Decidable.byContradiction fun notMore =>
          different (String.le_antisymm (String.not_lt.mp notMore) (String.not_lt.mp notLess))
      · exact above member inside

theorem insertMember_of_forall_lt (above : ∀ member ∈ members, member.1 < name) :
    insertMember name value members = members ++ [(name, value)] := by
  induction members with
  | nil => rfl
  | cons first rest ih =>
    obtain ⟨other, held⟩ := first
    have less : other < name := above _ List.mem_cons_self
    have different : name ≠ other := fun same => String.lt_irrefl _ (same ▸ less)
    rw [insertMember, if_neg different, if_neg (String.lt_asymm less),
      ih fun member inside => above member (List.mem_cons_of_mem _ inside)]
    rfl

/-- The members that are kept of an object are in order, and they are some of its members. -/
theorem foldl_insertMember (members : List (String × α)) {kept : List (String × α)}
    (sorted : kept.Pairwise (·.1 < ·.1)) :
    let result := members.foldl (fun kept (name, value) => insertMember name value kept) kept
    result.Pairwise (·.1 < ·.1) ∧ ∀ member ∈ result, member ∈ kept ∨ member ∈ members := by
  induction members generalizing kept with
  | nil => exact ⟨sorted, fun member inside => .inl inside⟩
  | cons first rest ih =>
    obtain ⟨name, value⟩ := first
    obtain ⟨ordered, each⟩ := ih (pairwise_insertMember name value sorted)
    refine ⟨ordered, fun member inside => ?_⟩
    rcases each member inside with inside | inside
    · rcases mem_insertMember inside with rfl | inside
      · exact .inr List.mem_cons_self
      · exact .inl inside
    · exact .inr (List.mem_cons_of_mem _ inside)

/-- Members that are in order are kept as they are. -/
theorem foldl_insertMember_of_sorted (kept : List (String × α))
    (sorted : (kept ++ members).Pairwise (·.1 < ·.1)) :
    members.foldl (fun kept (name, value) => insertMember name value kept) kept =
      kept ++ members := by
  induction members generalizing kept with
  | nil => exact (List.append_nil kept).symm
  | cons first rest ih =>
    obtain ⟨name, value⟩ := first
    have above : ∀ member ∈ kept, member.1 < name := fun member inside =>
      (List.pairwise_append.mp sorted).2.2 member inside (name, value) List.mem_cons_self
    rw [List.append_cons] at sorted
    rw [List.foldl_cons]
    dsimp only
    rw [insertMember_of_forall_lt above, ih _ sorted, ← List.append_cons]

end Gatehouse.Json
