/-!
# Unsigned numerals

A numeral is one plus sign or none, and then one or more ASCII digits. Only numbers that fit into
64 bits are read.
-/

namespace ConnLease.Text

/-- The least number that does not fit into 64 bits. -/
def unsignedLimit : Nat := 18446744073709551616

def isDigit (c : Char) : Bool := '0' ≤ c && c ≤ '9'

/-- The number that a run of digits denotes, first digit first. -/
def digitsValue (s : List Char) : Nat :=
  s.foldl (fun n c => 10 * n + (c.toNat - '0'.toNat)) 0

/-- The digits of a numeral: what follows its plus sign, if it has one. -/
def unsigned : List Char → List Char
  | '+' :: rest => rest
  | s => s

def readUnsigned (s : List Char) : Option Nat :=
  let digits := unsigned s
  if !digits.isEmpty && digits.all isDigit && digitsValue digits < unsignedLimit then
    some (digitsValue digits)
  else none

example : readUnsigned "+007".toList = some 7 := by decide
example : readUnsigned "+".toList = none := by decide
example : readUnsigned "18446744073709551615".toList = some 18446744073709551615 := by decide
example : readUnsigned "18446744073709551616".toList = none := by decide

end ConnLease.Text
