import Gatehouse.Json.Record
import Gatehouse.Proofs.Json.Strings
import Gatehouse.Proofs.Result

/-!
# What comes next in a list

Lists of any items and lists that stand for records are read alike: a bracket closes the list, or an
item comes, behind a comma unless it is the first one.
-/

namespace Gatehouse.Json

/-- What comes next in a list: its end, or an item with the text from the item on. -/
inductive NextItem where
  | none (rest : List UInt8)
  | item (start : List UInt8)

/-- Looks for the next item of a list, or for its closing bracket. -/
def nextItem (first : Bool) (input : List UInt8) : Except Stop NextItem :=
  match skipSpace input with
  | [] => stopAhead .endInList []
  | x :: rest =>
    if x = 0x5D then .ok (.none rest)
    else if first then .ok (.item (x :: rest))
    else if x = 0x2C then
      match skipSpace rest with
      | [] => stopAhead .endInValue []
      | y :: rest =>
        if y = 0x5D then stopAhead .trailingComma (y :: rest) else .ok (.item (y :: rest))
    else stopAhead .expectedListCommaOrEnd (x :: rest)

theorem readItems_succ {α : Type} (item : Reader α) (limit : Nat) (first : Bool)
    (input : List UInt8) :
    readItems item (limit + 1) first input = (do
      match ← nextItem first input with
      | .none rest => .ok ([], rest)
      | .item start =>
        let (a, rest) ← item start
        let (as, rest) ← readItems item limit false rest
        .ok (a :: as, rest)) := by
  rw [readItems, nextItem]
  cases skipSpace input with
  | nil => rfl
  | cons x rest =>
    dsimp only
    split
    · rfl
    split
    · rfl
    split
    · cases skipSpace rest with
      | nil => rfl
      | cons y rest =>
        dsimp only
        split
        · rfl
        · rfl
    · rfl

theorem Shape.readItems_cons {σ : Type} (shape : Shape σ) (depth : Nat) (m : Member σ)
    (left : List (Member σ)) (first : Bool) (record : σ) (input : List UInt8) :
    shape.readItems depth (m :: left) first record input = (do
      match ← nextItem first input with
      | .none rest =>
        match shape.missing? record with
        | some (place, _) => .ok (.error (.wrongLength place shape.expectedLength), rest)
        | none => .ok (.ok record, rest)
      | .item start =>
        let (record, rest) ← m.fill depth record start
        shape.readItems depth left false record rest) := by
  rw [readItems, nextItem]
  cases skipSpace input with
  | nil => rfl
  | cons x rest =>
    dsimp only
    split
    · rfl
    split
    · rfl
    split
    · cases skipSpace rest with
      | nil => rfl
      | cons y rest =>
        dsimp only
        split
        · rfl
        · rfl
    · rfl

theorem length_le_of_nextItem {first : Bool} {input start : List UInt8}
    (next : nextItem first input = .ok (.item start)) : start.length ≤ input.length := by
  have shorter := length_skipSpace_le input
  unfold nextItem at next
  split at next
  · cases next
  rename_i x rest space
  rw [space] at shorter
  split at next
  · cases next
  split at next
  · cases next
    exact shorter
  split at next
  · have less := length_skipSpace_le rest
    split at next
    · cases next
    rename_i y behind inner
    rw [inner] at less
    split at next
    · cases next
    · cases next
      exact Nat.le_trans less (Nat.le_of_succ_le shorter)
  · cases next

theorem nextItem_close (first : Bool) {input rest : List UInt8}
    (close : skipSpace input = 0x5D :: rest) : nextItem first input = .ok (.none rest) := by
  rw [nextItem, close]
  rfl

/-- A written item comes next, behind a comma unless it is the first one. -/
theorem nextItem_written (first : Bool) {written rest : List UInt8} {x : UInt8}
    {more : List UInt8} (starts : written = x :: more) (token : isSpace x = false)
    (other : x ≠ 0x5D) :
    nextItem first ((if first then [] else [0x2C]) ++ (written ++ rest)) =
      .ok (.item (written ++ rest)) := by
  subst starts
  have comma : isSpace 0x2C = false := rfl
  rw [nextItem, List.cons_append]
  cases first with
  | true =>
    rw [if_pos rfl, List.nil_append, skipSpace_cons token]
    dsimp only
    rw [if_neg other, if_pos rfl]
  | false =>
    rw [if_neg (by decide), List.singleton_append, skipSpace_cons comma]
    dsimp only
    rw [if_neg (by decide), if_neg (by decide), if_pos rfl, skipSpace_cons token]
    dsimp only
    rw [if_neg other]

theorem length_pos_of_nextItem {first : Bool} {input : List UInt8} {found : NextItem}
    (next : nextItem first input = .ok found) : 0 < input.length := by
  cases input with
  | nil => cases next
  | cons x rest => exact Nat.succ_pos _

end Gatehouse.Json
