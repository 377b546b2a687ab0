import ClauseSharing.Store
import Std.Data.ExtTreeMap

/-! # A store within the process

The store keeps its records in memory, counts what is done to it, and can be told to fail: to refuse
connections, to lose replies to a batch after all of it has been written, and to pop fewer records
than were asked for. A pop makes room for all the records that it may return before it looks how
many there are, and fails where there is no such room. -/

namespace ClauseSharing

/-- What has been done to a store. -/
@[ext]
structure StoreUse where
  /-- Connections opened. -/
  opened : Nat := 0
  /-- Connections opened and not yet released. -/
  held : Nat := 0
  /-- Batches of writes. -/
  batches : Nat := 0
  /-- Writes. -/
  writes : Nat := 0
  /-- Pops. -/
  pops : Nat := 0
  /-- Questions for the length of a list. -/
  lengthQueries : Nat := 0
deriving DecidableEq

/-- The greatest number of records for which room could ever be made at once: that many take up all
that can be addressed. -/
def LocalStore.greatestPop : Nat := 9223372036854775807 / 24

/-- A store in memory. -/
@[ext]
structure LocalStore where
  /-- The value under each key. -/
  values : Std.ExtTreeMap String String := ∅
  /-- The records of each list that has some, from head to tail. -/
  lists : Std.ExtTreeMap String (List String) := ∅
  /-- What has been done so far. -/
  use : StoreUse := {}
  /-- Whether connections are refused. -/
  unreachable : Bool := false
  /-- How many replies to a batch arrive, if some are lost. -/
  replyLimit : Option Nat := none
  /-- How many records one pop returns at most. -/
  popLimit : Option Nat := none
  /-- The greatest number of records for which a pop finds room. -/
  room : Nat := LocalStore.greatestPop
  room_le : room ≤ LocalStore.greatestPop := by exact Nat.le_refl _

namespace LocalStore

/-- The reason given when connections are refused. -/
def refusal : String := "store unreachable"

/-- A number within a limit, if there is one. -/
def within : Option Nat → Nat → Nat
  | none, number => number
  | some limit, number => min limit number

/-- The value under a key. -/
def value? (store : LocalStore) (key : String) : Option String := store.values[key]?

/-- The keys that have a value, in order. -/
def keys (store : LocalStore) : List String := store.values.keys

/-- The records of a list from head to tail, none where there is no such list. -/
def list (store : LocalStore) (name : String) : List String := store.lists.getD name []

/-- The store with other records in a list. A list without records is absent. -/
def setList (store : LocalStore) (name : String) (records : List String) : LocalStore :=
  { store with
    lists := if records.isEmpty then store.lists.erase name else store.lists.insert name records }

/-- Replacing the records of one list leaves every other list as it is. -/
theorem list_setList (store : LocalStore) (name other : String) (records : List String) :
    (store.setList name records).list other =
      if other = name then records else store.list other := by
  unfold list setList
  by_cases same : other = name
  · subst same
    cases records <;> simp
  · have apart : compare name other ≠ .eq := fun equal =>
      same (Std.LawfulEqOrd.eq_of_compare equal).symm
    cases records <;> simp [Std.ExtTreeMap.getD_erase, Std.ExtTreeMap.getD_insert, same, apart]

/-- Opens a connection. -/
def connect (store : LocalStore) : Except StoreError Unit × LocalStore :=
  if store.unreachable then (.error (.connection refusal), store)
  else (.ok (), { store with
    use := { store.use with opened := store.use.opened + 1, held := store.use.held + 1 } })

/-- Releases a connection. -/
def release (store : LocalStore) : LocalStore :=
  { store with use := { store.use with held := store.use.held - 1 } }

/-- Puts one value under its key. -/
def write (values : Std.ExtTreeMap String String) (pair : Write) : Std.ExtTreeMap String String :=
  values.insert pair.1 pair.2

/-- Writes a batch in full, and then fails if replies are lost. -/
def writeBatch (writes : List Write) (store : LocalStore) : Except StoreError Unit × LocalStore :=
  let written := { store with
    values := writes.foldl write store.values
    use := { store.use with
      batches := store.use.batches + 1
      writes := store.use.writes + writes.length } }
  let received := within store.replyLimit writes.length
  if received = writes.length then (.ok (), written)
  else (.error (.missingReply writes.length received), written)

/-- The length of a list. -/
def listLength (name : String) (store : LocalStore) : Except StoreError Nat × LocalStore :=
  (.ok (store.list name).length, { store with
    use := { store.use with lengthQueries := store.use.lengthQueries + 1 } })

/-- Removes records from the tail of a list, the one at the very end first. -/
def popBatch (name : String) (count : Nat) (store : LocalStore) :
    Except StoreError (List String) × LocalStore :=
  let asked := { store with use := { store.use with pops := store.use.pops + 1 } }
  let count := within store.popLimit count
  if store.room < count then (.error (.oversizedPop count), asked)
  else
    let waiting := (store.list name).reverse
    (.ok (waiting.take count), asked.setList name (waiting.drop count).reverse)

/-- Puts records at the head of a list, each before the last. -/
def push (name : String) (records : List String) (store : LocalStore) :
    Except StoreError Nat × LocalStore :=
  let list := records.reverse ++ store.list name
  (.ok list.length, store.setList name list)

/-- Removes every value and every list. -/
def flush (store : LocalStore) : Except StoreError Unit × LocalStore :=
  (.ok (), { store with values := ∅, lists := ∅ })

instance : Store LocalStore where
  connect := connect
  release := release
  writeBatch := writeBatch
  listLength := listLength
  popBatch := popBatch
  push := push
  flush := flush

end LocalStore

end ClauseSharing
