import ClauseSharing.Text.Marks
import ClauseSharing.Text.SignedDecimal

/-! # Numeric addresses of machines

The text of an IPv6 address: eight groups of up to four hexadecimal digits between colons. The last
two groups may be written as four decimal numbers between dots. Two colons in a row, at one place at
most, stand for one group of zeros or more. -/

namespace ClauseSharing.Redis.Ipv6

/-- Whether a character is a hexadecimal digit. -/
def isHexDigit (char : Char) : Bool :=
  char.isDigit || 'a' ≤ char && char ≤ 'f' || 'A' ≤ char && char ≤ 'F'

/-- Whether the characters write one group. -/
def isGroup (chars : List Char) : Bool :=
  !chars.isEmpty && chars.length ≤ 4 && chars.all isHexDigit

/-- Whether the characters write a number below 256 without leading zeros. -/
def isDecimalByte (chars : List Char) : Bool :=
  match SignedDecimal.readMagnitude? chars with
  | some number => number ≤ 255 && (chars.length = 1 || chars.head? ≠ some '0')
  | none => false

/-- Whether the characters write two groups as decimal numbers. -/
def isDotted (chars : List Char) : Bool :=
  let numbers := Text.parts '.' chars
  numbers.length = 4 && numbers.all isDecimalByte

/-- The number of groups that the parts between colons write, where the last part may be dotted. -/
def groupCount? : List (List Char) → Option Nat
  | [] => some 0
  | [last] => if isGroup last then some 1 else if isDotted last then some 2 else none
  | first :: rest => if isGroup first then (groupCount? rest).map (· + 1) else none

/-- What stands before the first two colons in a row, and what stands after them. -/
def cutAtGap : List Char → Option (List Char × List Char)
  | ':' :: ':' :: rest => some ([], rest)
  | char :: rest => (cutAtGap rest).map fun (before, after) => (char :: before, after)
  | [] => none

/-- The parts on one side of a gap. -/
def side (chars : List Char) : List (List Char) :=
  if chars.isEmpty then [] else Text.parts ':' chars

/-- Whether the characters write an address. -/
def isAddress (chars : List Char) : Bool :=
  match cutAtGap chars with
  | none => groupCount? (Text.parts ':' chars) = some 8
  | some (before, after) =>
    (side before).all isGroup &&
      (groupCount? (side after)).any fun count => (side before).length + count ≤ 7

end ClauseSharing.Redis.Ipv6
