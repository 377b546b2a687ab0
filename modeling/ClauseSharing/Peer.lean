import ClauseSharing.Config
import ClauseSharing.Fault
import ClauseSharing.IdCounter

/-! # Peers

A peer is one instance's side of the sharing: what it was told, the units and clauses that wait to
be published, the identifier of its next record, and what it has counted since it started. -/

namespace ClauseSharing

/-- What waits to be published. Each queue is emptied as a whole, after all of it was dealt with. -/
@[ext]
structure Outbox (κ : Type) where
  /-- Literals that hold for good. -/
  units : List Literal := []
  /-- Keys of clauses of two literals or more. -/
  clauses : List κ := []
deriving DecidableEq

namespace Outbox

variable {κ : Type}

/-- Whether nothing waits. -/
def isEmpty (outbox : Outbox κ) : Bool := outbox.units.isEmpty && outbox.clauses.isEmpty

/-- Empties the queue of units, if the given number of them was dealt with. -/
def drainUnits (outbox : Outbox κ) (processed : Nat) : Except PublishError (Outbox κ) :=
  if processed = outbox.units.length then .ok { outbox with units := [] }
  else .error .queueNotDrained

/-- Empties the queue of clauses, if the given number of them was dealt with. -/
def drainClauses (outbox : Outbox κ) (processed : Nat) : Except PublishError (Outbox κ) :=
  if processed = outbox.clauses.length then .ok { outbox with clauses := [] }
  else .error .queueNotDrained

end Outbox

/-- What a peer has counted since it started. -/
@[ext]
structure Tally where
  unitsPublished : Nat := 0
  clausesPublished : Nat := 0
  /-- Clauses that were too long to publish. -/
  clausesSkipped : Nat := 0
  recordsImported : Nat := 0
  /-- Imported units that gave an atom its value. -/
  unitsUseful : Nat := 0
  /-- Imported units that held already. -/
  unitsRedundant : Nat := 0
  /-- Imported units that contradicted the host. -/
  unitsConflicting : Nat := 0
  importedCore : Nat := 0
  importedSecond : Nat := 0
  importedActive : Nat := 0
  /-- Times that an imported clause had exactly the number of copies that lifts it to the second
  tier. -/
  copiesLifted : Nat := 0
deriving DecidableEq

/-- One instance's side of the sharing, whose host names clauses by keys `κ`. -/
structure Peer (κ : Type) where
  config : Config := {}
  counter : IdCounter := {}
  outbox : Outbox κ := {}
  tally : Tally := {}

namespace Peer

variable {κ : Type}

/-- Queues a literal that holds for good. -/
def queueUnit (peer : Peer κ) (literal : Literal) : Peer κ :=
  { peer with outbox := { peer.outbox with units := peer.outbox.units ++ [literal] } }

/-- Queues a learnt clause of two literals or more, which has to stay until it is published. -/
def queueClause (peer : Peer κ) (key : κ) : Peer κ :=
  { peer with outbox := { peer.outbox with clauses := peer.outbox.clauses ++ [key] } }

end Peer

end ClauseSharing
