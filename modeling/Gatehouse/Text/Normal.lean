import Gatehouse.Text.Property.Composition

/-!
# Composed form

Text with its marks in order and put together with their bases wherever a character
made of both exists.
-/

namespace Gatehouse.Text

/-- The class of a mark, zero for everything else. -/
def combiningClass (c : Char) : Nat :=
  match combiningClasses.find? fun (first, last, _) => first ≤ c.toNat && c.toNat ≤ last with
  | some (_, _, k) => k
  | none => 0

/-- The first syllable of the Korean script. -/
def hangulSyllables : Nat := 0xAC00

/-- The first letter that begins a syllable of the Korean script. -/
def hangulLeading : Nat := 0x1100

/-- The first letter that is the vowel of a syllable of the Korean script. -/
def hangulVowels : Nat := 0x1161

/-- The place in front of the first letter that ends a syllable of the Korean script. -/
def hangulTrailing : Nat := 0x11A7

/-- The character made of two letters of the Korean script. -/
def composeHangul? (a b : Char) : Option Char :=
  let m := a.toNat
  let n := b.toNat
  if hangulLeading ≤ m ∧ m < hangulLeading + 19 ∧ hangulVowels ≤ n ∧ n < hangulVowels + 21 then
    some (.ofNat (hangulSyllables + ((m - hangulLeading) * 21 + (n - hangulVowels)) * 28))
  else if hangulSyllables ≤ m ∧ m < hangulSyllables + 11172 ∧ (m - hangulSyllables) % 28 = 0 ∧
      hangulTrailing < n ∧ n < hangulTrailing + 28 then
    some (.ofNat (m + (n - hangulTrailing)))
  else none

/-- The character made of a base and a mark, if there is one. -/
def compose? (base mark : Char) : Option Char :=
  (compositions.findSome? fun (m, bases, made) =>
    if m = mark.toNat then
      ((bases.toList.zip made.toList).find? fun (b, _) => b == base).map (·.2)
    else none) <|> composeHangul? base mark

/-- The base and the mark of a character made of both. -/
def split? (c : Char) : Option (Char × Char) :=
  compositions.findSome? fun (m, bases, made) =>
    ((bases.toList.zip made.toList).find? fun (_, x) => x == c).map fun (b, _) => (b, .ofNat m)

/-- The letters of a syllable of the Korean script. -/
def splitHangul? (c : Char) : Option (List Char) :=
  let n := c.toNat
  if hangulSyllables ≤ n ∧ n < hangulSyllables + 11172 then
    let i := n - hangulSyllables
    let pair := [Char.ofNat (hangulLeading + i / 588), .ofNat (hangulVowels + i % 588 / 28)]
    some (if i % 28 = 0 then pair else pair ++ [.ofNat (hangulTrailing + i % 28)])
  else none

/-- A character taken apart, at most `depth` times. -/
def takeApart : (depth : Nat) → Char → List Char
  | 0, c => [c]
  | depth + 1, c =>
    match split? c with
    | some (base, mark) => takeApart depth base ++ [mark]
    | none => (splitHangul? c).getD [c]

/-- Puts a mark behind the marks of its class and of lower ones.  The list is in reverse. -/
def insertMark (c : Char) : List Char → List Char
  | [] => [c]
  | d :: rest =>
    if combiningClass c < combiningClass d ∧ combiningClass c ≠ 0 then d :: insertMark c rest
    else c :: d :: rest

/-- A text taken apart, with its marks in order. -/
def decomposed (cs : List Char) : List Char :=
  ((cs.flatMap (takeApart 4)).foldl (fun done c => insertMark c done) []).reverse

/-- Puts characters together.  `starter` is the last base, `marks` are those behind it that stay,
    the last one first. -/
def recompose : (starter : Option Char) → (marks : List Char) → List Char → List Char
  | starter, marks, [] => starter.toList ++ marks.reverse
  | none, _, c :: cs =>
    if combiningClass c = 0 then recompose (some c) [] cs else c :: recompose none [] cs
  | some s, marks, c :: cs =>
    let k := combiningClass c
    let free := match marks with
      | [] => true
      | m :: _ => combiningClass m < k
    match if free then compose? s c else none with
    | some made => recompose (some made) marks cs
    | none =>
      if k = 0 then s :: marks.reverse ++ recompose (some c) [] cs
      else recompose (some s) (c :: marks) cs

/-- The composed form of a text. -/
def composed (cs : List Char) : List Char :=
  if cs.all (·.toNat < 0x300) then cs else recompose none [] (decomposed cs)

end Gatehouse.Text
