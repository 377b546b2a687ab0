/-! # The shared store

Instances share records through a store that keeps a value under each key and a list of records
under each name. A store is anything that answers the commands below. It may refuse a connection,
fail a command, or return what was not asked for. -/

namespace ClauseSharing

/-- A key and the value to be kept under it. -/
abbrev Write := String × String

/-- What went wrong with the store. -/
inductive StoreError where
  /-- The store could not be reached, or the connection was lost. -/
  | connection (reason : String)
  /-- The store refused a command. -/
  | command (reason : String)
  /-- Fewer replies than writes. -/
  | missingReply (requested received : Nat)
  /-- A reply of another kind than the command has. -/
  | unexpectedReply (reply : String)
  /-- Another number of records than was asked for. -/
  | popMismatch (requested returned : Nat)
  /-- The store could not be emptied. -/
  | flush (reason : String)
  /-- Room was asked for more records than any memory holds. -/
  | oversizedPop (requested : Nat)
deriving DecidableEq

/-- A world `ω` with a store in it. Every command but `connect` goes over the open connection. -/
class Store (ω : Type) where
  /-- Opens a connection. -/
  connect : ω → Except StoreError Unit × ω
  /-- Releases the connection. -/
  release : ω → ω
  /-- Writes all pairs in order, without waiting for a reply before the last is sent. -/
  writeBatch : List Write → ω → Except StoreError Unit × ω
  /-- The length of a list. -/
  listLength : String → ω → Except StoreError Nat × ω
  /-- Removes up to `count` records from the tail of a list. -/
  popBatch : String → (count : Nat) → ω → Except StoreError (List String) × ω
  /-- Puts records at the head of a list one by one, and returns its length. -/
  push : String → List String → ω → Except StoreError Nat × ω
  /-- Removes everything. -/
  flush : ω → Except StoreError Unit × ω

namespace Store

/-- Runs one command over a connection of its own, which is released whatever the command does. -/
def overConnection {ω α : Type} [Store ω] (command : ω → Except StoreError α × ω) (world : ω) :
    Except StoreError α × ω :=
  match connect world with
  | (.error reason, world) => (.error reason, world)
  | (.ok (), world) =>
    let (outcome, world) := command world
    (outcome, release world)

end Store

end ClauseSharing
