/-! # Signed decimal integers

The text of an integer is an optional sign and then one or more ASCII digits, with leading zeros
allowed. It is read in full or not at all. -/

namespace ClauseSharing.SignedDecimal

/-- The number that one or more ASCII digits write. -/
def readMagnitude? (digits : List Char) : Option Nat :=
  if digits ≠ [] ∧ digits.all Char.isDigit then
    some (Nat.ofDigitChars 10 digits 0)
  else
    none

/-- The integer that the characters write. -/
def readChars? : List Char → Option Int
  | '-' :: digits => (readMagnitude? digits).map fun magnitude => -(magnitude : Int)
  | '+' :: digits => (readMagnitude? digits).map Int.ofNat
  | digits => (readMagnitude? digits).map Int.ofNat

/-- The integer that a text writes. -/
def read? (text : String) : Option Int :=
  readChars? text.toList

end ClauseSharing.SignedDecimal
