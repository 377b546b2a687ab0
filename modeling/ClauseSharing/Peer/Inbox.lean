import ClauseSharing.Peer

/-! # The inbox of a peer

What a peer, or somebody who passes records on to it, does with its inbox and with the store as a
whole. -/

namespace ClauseSharing.Peer

variable {ω κ : Type} [Store ω]

/-- A failure of the store as a fault. -/
def raised {α : Type} : Except StoreError α × ω → Except Fault α × ω
  | (.error reason, world) => (.error (.store reason), world)
  | (.ok value, world) => (.ok value, world)

/-- How many records wait in the inbox. -/
def inboxLength (peer : Peer κ) (world : ω) : Except Fault Nat × ω :=
  raised (Store.overConnection (Store.listLength peer.config.store.inbox) world)

/-- Puts records in the inbox, to be popped in the order given, and returns how many wait then. -/
def pushInbox (peer : Peer κ) (records : List String) (world : ω) : Except Fault Nat × ω :=
  raised (Store.overConnection (Store.push peer.config.store.inbox records) world)

/-- Removes everything from the store. -/
def flushStore (_peer : Peer κ) (world : ω) : Except Fault Unit × ω :=
  raised (Store.overConnection Store.flush world)

end ClauseSharing.Peer
