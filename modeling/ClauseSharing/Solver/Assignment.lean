import ClauseSharing.Literal

/-! # Assignments

The values of atoms, the trail of literals in the order in which they came to hold, and the places
on the trail at which decisions were made. -/

namespace ClauseSharing

/-- The values that atoms have, and how they came by them. -/
structure Assignment where
  /-- The value of each atom that has one. -/
  values : Std.ExtTreeMap Atom Bool := ∅
  /-- The literals made to hold, in order. -/
  trail : Array Literal := #[]
  /-- The length of the trail before each decision, the oldest first. -/
  decisions : Array Nat := #[]

namespace Assignment

/-- The value of an atom, if it has one. -/
def value? (assignment : Assignment) (atom : Atom) : Option Bool := assignment.values[atom]?

/-- How many levels are told apart. -/
def levelCount : Nat := 4294967296

/-- How many decisions stand, as far as a level of 32 bits tells. -/
def level (assignment : Assignment) : Nat := assignment.decisions.size % levelCount

/-- Makes a literal hold, whatever value its atom had. -/
def assign (assignment : Assignment) (literal : Literal) : Assignment :=
  { assignment with
    values := assignment.values.insert literal.atom literal.positive
    trail := assignment.trail.push literal }

/-- Makes a literal hold for good, which is only done at level zero. -/
def assignFact? (assignment : Assignment) (literal : Literal) : Option Assignment :=
  if assignment.level = 0 then some (assignment.assign literal) else none

/-- Makes a literal hold as a decision. -/
def decide (assignment : Assignment) (literal : Literal) : Assignment :=
  { assignment.assign literal with
    decisions := assignment.decisions.push assignment.trail.size }

/-- Takes back every decision and all that came after the first of them. -/
def backjump (assignment : Assignment) : Assignment :=
  match assignment.decisions[0]? with
  | none => assignment
  | some start =>
    { values := (assignment.trail.toList.drop start).foldl (fun values literal =>
        values.erase literal.atom) assignment.values
      trail := assignment.trail.take start
      decisions := #[] }

end Assignment

end ClauseSharing
