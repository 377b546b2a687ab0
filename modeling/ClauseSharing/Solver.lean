import ClauseSharing.Host
import ClauseSharing.Solver.Assignment
import ClauseSharing.Solver.Branching
import ClauseSharing.Solver.LearntBase

/-! # A solver without search

Enough of a solver to be the host of imports: it holds values of atoms, learnt clauses in tiers,
counts of copies and what decisions would be based on, and it never searches. -/

namespace ClauseSharing

/-- A host that holds clauses and values, and does not search. -/
structure Solver where
  assignment : Assignment := {}
  /-- Whether the clauses may still have a model. -/
  satisfiable : Bool := true
  learnt : LearntBase
  copies : CopyCounts
  branching : Branching

namespace Solver

/-- A solver that knows nothing yet. -/
def starting (config : Config) : Solver where
  learnt := .starting config.activity
  copies := .starting config.tiers.minCopies.value.toNat
  branching := .starting config.activity

/-- The literals of a learnt clause, unless it has been removed. -/
def literals? (solver : Solver) (key : LearntKey) : Option Clause :=
  (solver.learnt.find? key).map LearntClause.literals

/-- Makes a literal hold. -/
def assign (solver : Solver) (literal : Literal) : Solver :=
  { solver with assignment := solver.assignment.assign literal }

/-- Makes a literal hold for good, which is only done at level zero. -/
def assignFact? (solver : Solver) (literal : Literal) : Option Solver :=
  (solver.assignment.assignFact? literal).map fun assignment => { solver with assignment }

/-- Makes a literal hold as a decision. -/
def decide (solver : Solver) (literal : Literal) : Solver :=
  { solver with assignment := solver.assignment.decide literal }

/-- Takes back every decision. -/
def backjump (solver : Solver) : Solver :=
  { solver with assignment := solver.assignment.backjump }

/-- Stores a clause of the solver's own in the last tier. -/
def learn (solver : Solver) (literals : Clause) (distance : Nat) : LearntKey × Solver :=
  let (key, learnt) := solver.learnt.learn literals distance
  (key, { solver with learnt })

/-- Removes a learnt clause and returns it. -/
def remove (solver : Solver) (key : LearntKey) : Option LearntClause × Solver :=
  let (removed, learnt) := solver.learnt.remove key
  (removed, { solver with learnt })

/-- Changes the learnt clauses. -/
def onLearnt (solver : Solver) (change : LearntBase → LearntBase) : Solver :=
  { solver with learnt := change solver.learnt }

/-- Changes what decisions are based on. -/
def onBranching (solver : Solver) (change : Branching → Branching) : Solver :=
  { solver with branching := change solver.branching }

instance : Host Solver LearntKey where
  decisionLevel solver := solver.assignment.level
  value? atom solver := solver.assignment.value? atom
  assign literal solver := solver.assign literal
  setUnsatisfiable solver := { solver with satisfiable := false }
  allocate literals distance solver :=
    let (key, learnt) := solver.learnt.allocate literals distance
    (key, { solver with learnt })
  markTier key tier solver := solver.onLearnt (·.markTier key tier)
  setTouched key conflicts solver := solver.onLearnt (·.setTouched key conflicts)
  bumpClause key solver := solver.onLearnt (·.bumpClause key)
  attach key solver := solver.onLearnt (·.attach key)
  decayClauses solver := solver.onLearnt LearntBase.decayClauses
  noteCopy key solver :=
    let (seen, copies) := solver.copies.note key
    (seen, { solver with copies })
  isAdaptive solver := solver.branching.adaptive
  recordDistance distance solver := solver.onBranching (·.record distance)
  decayAtoms solver := solver.onBranching Branching.decayAtoms
  conflicts solver := solver.branching.conflicts

end Solver

end ClauseSharing
