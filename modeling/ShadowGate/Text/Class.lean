import ShadowGate.Text.Ranges

/-!
# Character classes

* `isBlank` — White_Space; `trim` removes it from both ends.
* `isWordChar` — alphabetic or numeric; `words` are the maximal runs of such characters.
-/

namespace ShadowGate.Text

/-- White_Space. -/
def isBlank (c : Char) : Bool := inRanges c.toNat whiteSpace

/-- Alphabetic or numeric. -/
def isWordChar (c : Char) : Bool := inRanges c.toNat alphabetic || inRanges c.toNat numeric

/-- Remove white space from both ends. -/
def trimChars (cs : List Char) : List Char :=
  ((cs.dropWhile isBlank).reverse.dropWhile isBlank).reverse

/-- Remove white space from both ends. -/
def trim (s : String) : String := String.ofList (trimChars s.toList)

/-- Cut a list at every element that fails `p`; the cuts are dropped and empty pieces are kept. -/
def pieces (p : Char → Bool) : List Char → List (List Char)
  | [] => [[]]
  | c :: rest =>
    if p c then
      match pieces p rest with
      | [] => [[c]]
      | w :: ws => (c :: w) :: ws
    else [] :: pieces p rest

/-- The pieces of a text between characters that belong to no word. -/
def words (s : String) : List String := (pieces isWordChar s.toList).map String.ofList

end ShadowGate.Text
