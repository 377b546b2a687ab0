import ClauseSharing.Host
import ClauseSharing.Store

/-! # Logged calls

A world that keeps, in one list and in order, every call made on its store and every call that
changes its host. Calls that only read the host leave no trace. Everything else is as in the world
below, whatever that does. -/

namespace ClauseSharing

/-- A call made on a store or on a host. -/
inductive Call (κ : Type) where
  | connect
  | release
  | writeBatch (writes : List Write)
  | listLength (name : String)
  | popBatch (name : String) (count : Nat)
  | push (name : String) (records : List String)
  | flush
  | assign (literal : Literal)
  | setUnsatisfiable
  | allocate (literals : Clause) (distance : Nat)
  | markTier (key : κ) (tier : Tier)
  | setTouched (key : κ) (conflicts : Nat)
  | bumpClause (key : κ)
  | attach (key : κ)
  | decayClauses
  | noteCopy (key : LiteralSet)
  | recordDistance (distance : Nat)
  | decayAtoms
deriving DecidableEq

/-- A world and the calls made on it. -/
@[ext]
structure Logged (κ ω : Type) where
  /-- The calls made, the first one first. -/
  calls : Array (Call κ) := #[]
  world : ω

namespace Logged

variable {κ ω α : Type}

/-- Notes a call that answers something. -/
def ask (call : Call κ) (command : ω → α × ω) (logged : Logged κ ω) : α × Logged κ ω :=
  let (answer, world) := command logged.world
  (answer, { calls := logged.calls.push call, world })

/-- Notes a call that answers nothing. -/
def act (call : Call κ) (change : ω → ω) (logged : Logged κ ω) : Logged κ ω :=
  { calls := logged.calls.push call, world := change logged.world }

instance [Store ω] : Store (Logged κ ω) where
  connect := ask .connect Store.connect
  release := act .release Store.release
  writeBatch writes := ask (.writeBatch writes) (Store.writeBatch writes)
  listLength name := ask (.listLength name) (Store.listLength name)
  popBatch name count := ask (.popBatch name count) (Store.popBatch name count)
  push name records := ask (.push name records) (Store.push name records)
  flush := ask .flush Store.flush

instance [Host ω κ] : Host (Logged κ ω) κ where
  decisionLevel logged := Host.decisionLevel logged.world
  value? atom logged := Host.value? atom logged.world
  assign literal := act (.assign literal) (Host.assign literal)
  setUnsatisfiable := act .setUnsatisfiable Host.setUnsatisfiable
  allocate literals distance := ask (.allocate literals distance) (Host.allocate literals distance)
  markTier key tier := act (.markTier key tier) (Host.markTier key tier)
  setTouched key conflicts := act (.setTouched key conflicts) (Host.setTouched key conflicts)
  bumpClause key := act (.bumpClause key) (Host.bumpClause key)
  attach key := act (.attach key) (Host.attach key)
  decayClauses := act .decayClauses Host.decayClauses
  noteCopy key := ask (.noteCopy key) (Host.noteCopy key)
  isAdaptive logged := Host.isAdaptive logged.world
  recordDistance distance := act (.recordDistance distance) (Host.recordDistance distance)
  decayAtoms := act .decayAtoms Host.decayAtoms
  conflicts logged := Host.conflicts logged.world

end Logged

end ClauseSharing
