/-!
# White space

The characters with the White_Space property, and the cutting of text at them.
-/

namespace Gatehouse.Text

/-- Whether a character has the White_Space property. -/
def isBlank (c : Char) : Bool :=
  let n := c.toNat
  (0x09 ≤ n && n ≤ 0x0D) || n == 0x20 || n == 0x85 || n == 0xA0 || n == 0x1680 ||
    (0x2000 ≤ n && n ≤ 0x200A) || n == 0x2028 || n == 0x2029 || n == 0x202F || n == 0x205F ||
    n == 0x3000

/-- A list without its last elements that satisfy `p`. -/
def dropWhileEnd {α : Type} (p : α → Bool) (xs : List α) : List α :=
  (xs.reverse.dropWhile p).reverse

/-- A list without the elements at both ends that satisfy `p`. -/
def trimBy {α : Type} (p : α → Bool) (xs : List α) : List α :=
  dropWhileEnd p (xs.dropWhile p)

/-- A text without white space at both ends. -/
def trim (s : String) : String :=
  .ofList (trimBy isBlank s.toList)

/-- A string without the slashes at its end. -/
def trimSlashes (s : String) : String :=
  .ofList (dropWhileEnd (· == '/') s.toList)

/-- Adds a character in front of the first word. -/
def consFirst (c : Char) : List (List Char) → List (List Char)
  | [] => [[c]]
  | word :: words => (c :: word) :: words

/-- The pieces of a text between the characters that satisfy `p`, empty pieces
    included; there is always at least one. -/
def splitBy (p : Char → Bool) : List Char → List (List Char)
  | [] => [[]]
  | c :: cs => if p c then [] :: splitBy p cs else consFirst c (splitBy p cs)

/-- The nonempty pieces of a string between white space. -/
def words (s : String) : List String :=
  ((splitBy isBlank s.toList).filter (!·.isEmpty)).map .ofList

/-- Strings put together with one separator between each two. -/
def joinWith (separator : String) : List String → String
  | [] => ""
  | [s] => s
  | s :: t :: rest => s ++ separator ++ joinWith separator (t :: rest)

/-- Splits a text at the first character that satisfies `p`, which is dropped. -/
def cutAt? (p : Char → Bool) : List Char → Option (List Char × List Char)
  | [] => none
  | c :: cs => if p c then some ([], cs) else (cutAt? p cs).map fun (a, b) => (c :: a, b)

end Gatehouse.Text
