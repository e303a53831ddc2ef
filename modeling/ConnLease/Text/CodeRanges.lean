/-!
# Sets of characters

A set of characters is given by a rising list of bounds: the first bound opens a range of code
points, the second closes it (and lies just behind it), the third opens the next one, and so on.
-/

namespace ConnLease.Text

/-- Whether every bound lies above the one before it. -/
def isRising : List Nat → Bool
  | a :: b :: rest => a < b && isRising (b :: rest)
  | _ => true

/-- Whether an odd number of bounds lie at or below the code point of `c`. -/
def inRanges (bounds : List Nat) (c : Char) : Bool :=
  (bounds.takeWhile (· ≤ c.toNat)).length % 2 == 1

example : inRanges [0x30, 0x3A] '0' = true := by decide
example : inRanges [0x30, 0x3A] '9' = true := by decide
example : inRanges [0x30, 0x3A] ':' = false := by decide

end ConnLease.Text
