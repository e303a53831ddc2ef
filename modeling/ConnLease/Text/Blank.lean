import ConnLease.Text.CodeRanges

/-!
# Blank characters

The characters with the Unicode property White_Space, and text without them at its two ends.
-/

namespace ConnLease.Text

def blankRanges : List Nat :=
  [0x9, 0xE, 0x20, 0x21, 0x85, 0x86, 0xA0, 0xA1, 0x1680, 0x1681, 0x2000, 0x200B, 0x2028, 0x202A,
   0x202F, 0x2030, 0x205F, 0x2060, 0x3000, 0x3001]

def isBlank (c : Char) : Bool := inRanges blankRanges c

/-- Text without the blanks in front of it and behind it. -/
def trim (s : List Char) : List Char :=
  ((s.dropWhile isBlank).reverse.dropWhile isBlank).reverse

example : isRising blankRanges = true := by decide
example : isBlank ' ' = true := by decide
example : isBlank '\x0c' = true := by decide
example : isBlank '\u200b' = false := by decide
example : trim " a b\t".toList = "a b".toList := by decide

end ConnLease.Text
