import ClauseSharing.Host
import ClauseSharing.Store

/-! # A store and a host side by side

The world of one instance: a store and the host of the instance, where a command to the one leaves
the other as it is. -/

namespace ClauseSharing

/-- A store and a host. -/
@[ext]
structure World (σ η : Type) where
  store : σ
  host : η

namespace World

variable {σ η κ α : Type}

/-- Runs a command on the store. -/
def onStore (command : σ → α × σ) (world : World σ η) : α × World σ η :=
  let (answer, store) := command world.store
  (answer, { world with store })

/-- Changes the host. -/
def onHost (change : η → η) (world : World σ η) : World σ η :=
  { world with host := change world.host }

/-- Changes the host and returns what it answers. -/
def askHost (command : η → α × η) (world : World σ η) : α × World σ η :=
  let (answer, host) := command world.host
  (answer, { world with host })

instance [Store σ] : Store (World σ η) where
  connect := onStore Store.connect
  release world := { world with store := Store.release world.store }
  writeBatch writes := onStore (Store.writeBatch writes)
  listLength name := onStore (Store.listLength name)
  popBatch name count := onStore (Store.popBatch name count)
  push name records := onStore (Store.push name records)
  flush := onStore Store.flush

instance [Host η κ] : Host (World σ η) κ where
  decisionLevel world := Host.decisionLevel world.host
  value? atom world := Host.value? atom world.host
  assign literal := onHost (Host.assign literal)
  setUnsatisfiable := onHost Host.setUnsatisfiable
  allocate literals distance := askHost (Host.allocate literals distance)
  markTier key tier := onHost (Host.markTier key tier)
  setTouched key conflicts := onHost (Host.setTouched key conflicts)
  bumpClause key := onHost (Host.bumpClause key)
  attach key := onHost (Host.attach key)
  decayClauses := onHost Host.decayClauses
  noteCopy key := askHost (Host.noteCopy key)
  isAdaptive world := Host.isAdaptive world.host
  recordDistance distance := onHost (Host.recordDistance distance)
  decayAtoms := onHost Host.decayAtoms
  conflicts world := Host.conflicts world.host

end World

end ClauseSharing
