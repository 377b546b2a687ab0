/-! # The nearest double

Decimal texts are read to the binary64 number nearest to them, a tie going to the even neighbour.
The rounding is exact: it works on the ratio of two natural numbers, and no step before the last
rounds. -/

namespace ClauseSharing.Binary64

/-- The exponent of the power of two that the smallest positive double is. -/
def leastExponent : Int := -1074

/-- The number of bits of a fraction field. -/
def fractionWidth : Nat := 52

/-- The bits of positive infinity, above those of every finite number. -/
def infinityBits : Nat := 0x7FF * Nat.pow 2 fractionWidth

/-- Whether `numerator / denominator` is at least `2 ^ exponent`. -/
def reachesPower (numerator denominator : Nat) (exponent : Int) : Bool :=
  denominator * Nat.pow 2 exponent.toNat ≤ numerator * Nat.pow 2 (-exponent).toNat

/-- The exponent of the greatest power of two within a positive ratio. -/
def leadingExponent (numerator denominator : Nat) : Int :=
  let estimate : Int := (numerator.log2 : Int) - denominator.log2
  if reachesPower numerator denominator estimate then estimate else estimate - 1

/-- A ratio of natural numbers rounded to a natural number, a tie going to the even one. -/
def divideToEven (numerator denominator : Nat) : Nat :=
  let quotient := numerator / denominator
  let doubled := 2 * (numerator % denominator)
  if denominator < doubled ∨ (denominator = doubled ∧ quotient % 2 = 1) then quotient + 1
  else quotient

/-- The bits of the double nearest to a ratio. The significand and the exponent field are added, so
that a significand that rounds up to the next power of two carries into the exponent, and a number
past the greatest finite one becomes infinite. -/
def nearestBits (numerator denominator : Nat) : Nat :=
  if numerator = 0 then 0
  else
    let exponent := max (leadingExponent numerator denominator - fractionWidth) leastExponent
    let significand := divideToEven (numerator * Nat.pow 2 (-exponent).toNat)
      (denominator * Nat.pow 2 exponent.toNat)
    min ((exponent - leastExponent).toNat * Nat.pow 2 fractionWidth + significand) infinityBits

/-- The double with the given sign and magnitude bits. -/
def ofSignedBits (negative : Bool) (bits : Nat) : Float :=
  Float.ofBits (UInt64.ofNat (bits + if negative then 0x8000000000000000 else 0))

/-- The double nearest to a ratio, with a sign. -/
def ofRatio (negative : Bool) (numerator denominator : Nat) : Float :=
  ofSignedBits negative (nearestBits numerator denominator)

/-- Doubles other than zero and infinity have their first digit within this many places of the
decimal point. -/
def decimalReach : Int := 400

/-- The double nearest to `mantissa * 10 ^ exponent`. Numbers beyond the reach of doubles are
settled without their powers of ten. -/
def ofDecimal (negative : Bool) (mantissa : Nat) (exponent : Int) : Float :=
  let leading := exponent + (Nat.toDigits 10 mantissa).length
  if mantissa = 0 ∨ leading < -decimalReach then ofSignedBits negative 0
  else if decimalReach < leading then ofSignedBits negative infinityBits
  else ofRatio negative (mantissa * Nat.pow 10 exponent.toNat) (Nat.pow 10 (-exponent).toNat)

/-- The words for numbers that have no digits. -/
def ofWord? (negative : Bool) (word : String) : Option Float :=
  if word = "inf" ∨ word = "infinity" then some (ofSignedBits negative infinityBits)
  else if word = "nan" then some (0.0 / 0.0)
  else none

/-- An exponent: a sign, which may be missing, and one or more digits. -/
def readExponent? (chars : List Char) : Option Int :=
  let (negative, digits) := match chars with
    | '-' :: digits => (true, digits)
    | '+' :: digits => (false, digits)
    | digits => (false, digits)
  if digits ≠ [] ∧ digits.all Char.isDigit then
    let magnitude : Int := Nat.ofDigitChars 10 digits 0
    some (if negative then -magnitude else magnitude)
  else
    none

/-- Digits with a point among them, at either end, or nowhere, and then an exponent or nothing. -/
def readNumber? (negative : Bool) (chars : List Char) : Option Float := do
  let whole := chars.takeWhile Char.isDigit
  let (fraction, rest) := match chars.dropWhile Char.isDigit with
    | '.' :: rest => (rest.takeWhile Char.isDigit, rest.dropWhile Char.isDigit)
    | rest => ([], rest)
  let digits := whole ++ fraction
  if digits = [] then none
  else
    let exponent ← match rest with
      | [] => some 0
      | mark :: rest => if mark = 'e' ∨ mark = 'E' then readExponent? rest else none
    some (ofDecimal negative (Nat.ofDigitChars 10 digits 0) (exponent - fraction.length))

/-- The double nearest to the number that a text writes: a sign, which may be missing, and then
decimal digits or, in any case of letters, `inf`, `infinity` or `nan`. -/
def ofText? (text : String) : Option Float :=
  let (negative, rest) := match text.toList with
    | '-' :: rest => (true, rest)
    | '+' :: rest => (false, rest)
    | rest => (false, rest)
  match ofWord? negative (String.ofList (rest.map Char.toLower)) with
  | some number => some number
  | none => readNumber? negative rest

/-- The finite double furthest from zero on the given side. -/
def greatestFinite (negative : Bool) : Float :=
  ofSignedBits negative (infinityBits - 1)

end ClauseSharing.Binary64
