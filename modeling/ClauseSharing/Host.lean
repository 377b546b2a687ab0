import ClauseSharing.CopyCounts
import ClauseSharing.Tier

/-! # Hosts

Imported clauses go to a solver, the host. Whatever a host does with them, an import asks for no
more than what is listed here. -/

namespace ClauseSharing

/-- A world `ω` with a host in it, which names its learnt clauses by keys `κ`. -/
class Host (ω : Type) (κ : outParam Type) where
  /-- The decision level, zero where no decision stands. -/
  decisionLevel : ω → Nat
  /-- The value of an atom, if it has one. -/
  value? : Atom → ω → Option Bool
  /-- Gives an atom the value that makes the literal hold. -/
  assign : Literal → ω → ω
  /-- Notes that the clauses of the host have no model. -/
  setUnsatisfiable : ω → ω
  /-- Stores a clause with its distance, under a fresh key. -/
  allocate : Clause → Nat → ω → κ × ω
  /-- Puts a clause in a tier. -/
  markTier : κ → Tier → ω → ω
  /-- Notes the number of conflicts at which a clause was last touched. -/
  setTouched : κ → Nat → ω → ω
  /-- Raises the activity of a clause. -/
  bumpClause : κ → ω → ω
  /-- Makes a clause take part in propagation. -/
  attach : κ → ω → ω
  /-- Lowers the activity of all clauses against later bumps. -/
  decayClauses : ω → ω
  /-- Notes a copy of a clause and announces the number of copies seen. -/
  noteCopy : LiteralSet → ω → Nat × ω
  /-- Whether decisions follow the activity of atoms. -/
  isAdaptive : ω → Bool
  /-- Notes the distance of a clause as if the clause had been learnt from a conflict. -/
  recordDistance : Nat → ω → ω
  /-- Lowers the activity of all atoms against later bumps. -/
  decayAtoms : ω → ω
  /-- The number of conflicts so far. -/
  conflicts : ω → Nat

end ClauseSharing
