import Std.Data.ExtTreeMap

/-! # Literals

A literal is an atom or the negation of an atom. On the wire it is a nonzero integer: the sign is
the polarity, and the magnitude is one more than the number of the atom. Literals are ordered by
atom first, so that a literal stands next to its negation, the negative one before the positive. -/

namespace ClauseSharing

/-- Atoms are numbered by 32-bit words. -/
abbrev Atom := UInt32

/-- An atom, or the negation of one. -/
@[ext]
structure Literal where
  /-- The atom that the literal speaks of. -/
  atom : Atom
  /-- Whether the literal holds when its atom is true. -/
  positive : Bool
deriving DecidableEq

namespace Literal

/-- The literal on the same atom that holds exactly when this one does not. -/
def negate (literal : Literal) : Literal :=
  { literal with positive := !literal.positive }

/-- The wire integer of a literal. -/
def toInt (literal : Literal) : Int :=
  let magnitude : Int := literal.atom.toNat + 1
  if literal.positive then magnitude else -magnitude

/-- The greatest magnitude of a wire integer, one more than the greatest atom. -/
def maxMagnitude : Nat := 4294967296

/-- The literal with the given wire integer, if the integer is one. -/
def ofInt? (int : Int) : Option Literal :=
  if 0 < int.natAbs ∧ int.natAbs ≤ maxMagnitude then
    some ⟨UInt32.ofNat (int.natAbs - 1), decide (0 < int)⟩
  else
    none

/-- Negating twice changes nothing. -/
@[simp]
theorem negate_negate (literal : Literal) : literal.negate.negate = literal := by
  simp [negate]

/-- Negating a literal negates its wire integer. -/
theorem toInt_negate (literal : Literal) : literal.negate.toInt = -literal.toInt := by
  cases literal with
  | mk atom positive => cases positive <;> simp [negate, toInt]

theorem natAbs_toInt (literal : Literal) : literal.toInt.natAbs = literal.atom.toNat + 1 := by
  simp only [toInt]
  split <;> omega

/-- Every literal is read back from its wire integer. -/
theorem ofInt?_toInt (literal : Literal) : ofInt? literal.toInt = some literal := by
  have bound := literal.atom.toNat_lt
  have magnitude := natAbs_toInt literal
  have inside : 0 < literal.toInt.natAbs ∧ literal.toInt.natAbs ≤ maxMagnitude := by
    rw [magnitude, maxMagnitude]
    omega
  have sign : decide (0 < literal.toInt) = literal.positive := by
    simp only [toInt]
    split
    · rename_i positive
      rw [positive]
      exact decide_eq_true (by omega)
    · rename_i negative
      rw [Bool.eq_false_iff.mpr negative]
      exact decide_eq_false (by omega)
  rw [ofInt?, if_pos inside, sign, magnitude, Nat.add_sub_cancel, UInt32.ofNat_toNat]

/-- A literal is read from its own wire integer only. -/
theorem toInt_of_ofInt? {int : Int} {literal : Literal} (read : ofInt? int = some literal) :
    literal.toInt = int := by
  rw [ofInt?] at read
  split at read
  · rename_i inside
    obtain rfl := Option.some.inj read
    have small : int.natAbs - 1 < 2 ^ 32 := by
      have := inside.2
      rw [maxMagnitude] at this
      omega
    simp only [toInt, UInt32.toNat_ofNat_of_lt' small]
    split
    · rename_i positive
      have := of_decide_eq_true positive
      omega
    · rename_i negative
      have := of_decide_eq_false (Bool.eq_false_iff.mpr negative)
      omega
  · exact absurd read (by simp)

/-- Literals are ordered by atom, and a negative literal comes before its negation. -/
instance : Ord Literal := ⟨compareLex (compareOn atom) (compareOn positive)⟩

instance : Std.TransOrd Literal :=
  inferInstanceAs (Std.TransCmp (compareLex (compareOn atom) (compareOn positive)))

instance : Std.LawfulEqOrd Literal where
  eq_of_compare := by
    intro left right same
    have both : (compare left.atom right.atom).then (compare left.positive right.positive) = .eq :=
      same
    obtain ⟨atoms, polarities⟩ := Ordering.then_eq_eq.mp both
    exact Literal.ext (Std.LawfulEqOrd.eq_of_compare atoms)
      (Std.LawfulEqOrd.eq_of_compare polarities)

instance : LT Literal := ⟨fun left right => compare left right = .lt⟩

instance : DecidableLT Literal :=
  fun left right => inferInstanceAs (Decidable (compare left right = .lt))

instance : LE Literal := ⟨fun left right => compare left right ≠ .gt⟩

instance : DecidableLE Literal :=
  fun left right => inferInstanceAs (Decidable (compare left right ≠ .gt))

end Literal

end ClauseSharing
