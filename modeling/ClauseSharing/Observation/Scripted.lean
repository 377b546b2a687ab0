import ClauseSharing.Host
import ClauseSharing.Store

/-! # Stores and hosts that follow a script

A store whose answers are laid down beforehand, whatever it is asked, and a host that announces
copies as it is told. With logged calls they show what an operation asks of either. -/

namespace ClauseSharing

/-- A store that answers as it is told and keeps nothing. -/
structure ScriptedStore where
  /-- The reason with which connections are refused, if they are. -/
  connectFails : Option String := none
  /-- The length of every list, in sixty-four bits, if the question for it does not fail. -/
  length : Option Nat := none
  /-- The records that a pop returns, whatever the count, if it does not fail. -/
  records : Option (List String) := none
  /-- The reason for which the store cannot be emptied, if it cannot. -/
  flushFails : Option String := none
  /-- The number of the one batch that fails, counted from one, if one does. -/
  failBatch : Option Nat := none
  /-- Batches so far. -/
  batches : Nat := 0

namespace ScriptedStore

/-- Fails for the reason given, if there is one. -/
def failWith (error : String → StoreError) : Option String → Except StoreError Unit
  | some reason => .error (error reason)
  | none => .ok ()

instance : Store ScriptedStore where
  connect store := (failWith .connection store.connectFails, store)
  release store := store
  writeBatch _ store :=
    let number := store.batches + 1
    (if store.failBatch = some number then .error (.command s!"batch {number}") else .ok (),
      { store with batches := number })
  listLength _ store :=
    (match store.length with
      | some length => .ok length
      | none => .error (.command "list_len"), store)
  popBatch _ _ store :=
    (match store.records with
      | some records => .ok records
      | none => .error (.unexpectedReply "pop_batch"), store)
  push _ records store :=
    (match store.length with
      | some length => .ok ((length + records.length) % 18446744073709551616)
      | none => .error (.command "push"), store)
  flush store := (failWith .flush store.flushFails, store)

end ScriptedStore

/-- A host that holds values, gives out keys in order and announces copies as it is told. -/
structure ScriptedHost where
  /-- How many decisions stand. -/
  level : Nat := 0
  /-- The values of atoms. -/
  values : Std.ExtTreeMap Atom Bool := ∅
  adaptive : Bool := true
  conflicts : Nat := 0
  /-- What is announced for the next copies, and then always zero. -/
  announced : List Nat := []
  /-- How many clauses have been stored. -/
  allocated : Nat := 0

namespace ScriptedHost

/-- The host with an atom given the value that makes the literal hold. -/
def hold (host : ScriptedHost) (literal : Literal) : ScriptedHost :=
  { host with values := host.values.insert literal.atom literal.positive }

instance : Host ScriptedHost Nat where
  decisionLevel host := host.level
  value? atom host := host.values[atom]?
  assign literal host := host.hold literal
  setUnsatisfiable host := host
  allocate _ _ host := (host.allocated, { host with allocated := host.allocated + 1 })
  markTier _ _ host := host
  setTouched _ _ host := host
  bumpClause _ host := host
  attach _ host := host
  decayClauses host := host
  noteCopy _ host := (host.announced.headD 0, { host with announced := host.announced.tail })
  isAdaptive host := host.adaptive
  recordDistance _ host := host
  decayAtoms host := host
  conflicts host := host.conflicts

end ScriptedHost

end ClauseSharing
