import ClauseSharing.Text.SignedDecimal

/-! # Integers within a range

Settings and identifiers hold integers of a fixed range. A minus sign is read only where the range
has negative numbers, so that `-0` is no text of a range that starts at zero. -/

namespace ClauseSharing

/-- An integer from `low` to `high`, both included. -/
@[ext]
structure Ranged (low high : Int) where
  /-- The integer. -/
  val : Int
  low_le : low ≤ val
  le_high : val ≤ high
deriving DecidableEq

namespace Ranged

variable {low high : Int}

instance : LE (Ranged low high) := ⟨fun left right => left.val ≤ right.val⟩

instance : DecidableLE (Ranged low high) :=
  fun left right => inferInstanceAs (Decidable (left.val ≤ right.val))

/-- The natural number of a ranged integer, zero where it is negative. -/
def toNat (number : Ranged low high) : Nat := number.val.toNat

/-- The integer as a number of the range, if it lies in it. -/
def ofInt? (int : Int) : Option (Ranged low high) :=
  if inside : low ≤ int ∧ int ≤ high then some ⟨int, inside.1, inside.2⟩ else none

/-- The number of the range that a text writes. -/
def ofText? (text : String) : Option (Ranged low high) :=
  if 0 ≤ low ∧ text.toList.head? = some '-' then none
  else (SignedDecimal.read? text).bind ofInt?

/-- The decimal text of a number. -/
def toText (number : Ranged low high) : String := toString number.val

end Ranged

/-- The numbers of eight bits. -/
abbrev Byte := Ranged 0 255

/-- The numbers of sixteen bits. -/
abbrev PortNumber := Ranged 0 65535

/-- The numbers of thirty-two bits. -/
abbrev Word := Ranged 0 4294967295

/-- The numbers of sixty-four bits. -/
abbrev Size := Ranged 0 18446744073709551615

/-- The signed integers of sixty-four bits. -/
abbrev Long := Ranged (-9223372036854775808) 9223372036854775807

end ClauseSharing
