/-! # Identifiers of published records

Each published record takes the next identifier. Identifiers rise by one, the greatest 32-bit
number is never taken, and the counter never wraps. -/

namespace ClauseSharing

/-- The identifier of the next record. -/
@[ext]
structure IdCounter where
  /-- The next identifier, or the limit when none is left. -/
  next : Nat := 0
  next_le : next ≤ 4294967295 := by decide
deriving DecidableEq

namespace IdCounter

/-- The number that is never taken. -/
def limit : Nat := 4294967295

/-- The counter whose next identifier is the given one, as far as there is one. -/
def startingAt (next : Nat) : IdCounter :=
  ⟨min next limit, Nat.min_le_right ..⟩

/-- How many identifiers may still be taken. -/
def remaining (counter : IdCounter) : Nat := limit - counter.next

/-- The counter after the given number of identifiers, as far as they are left. -/
def advance (counter : IdCounter) (count : Nat) : IdCounter :=
  startingAt (counter.next + count)

/-- The next identifier and the counter after it, unless none is left. -/
def take? (counter : IdCounter) : Option (Nat × IdCounter) :=
  if 0 < counter.remaining then some (counter.next, counter.advance 1) else none

/-- The next `count` identifiers and the counter after them, unless fewer are left. -/
def takeMany? (counter : IdCounter) (count : Nat) : Option (List Nat × IdCounter) :=
  if count ≤ counter.remaining then
    some (List.range' counter.next count, counter.advance count)
  else
    none

end IdCounter

end ClauseSharing
