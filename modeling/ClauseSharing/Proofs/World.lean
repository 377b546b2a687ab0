import ClauseSharing.Proofs.View
import ClauseSharing.World

/-! # A store beside a host

A store is seen in any world in which it is put beside a host, so what is done over a connection to
the store of a world is done to that store alone. Popping and filling an inbox can be followed
without the host (`World.popInbox_onStore`, `World.pushInbox_onStore`). And where a store is seen in
another one, so it is with the same host beside both (`World.respectsAt_mapStore`). -/

namespace ClauseSharing.World

variable {σ τ η α κ : Type} [Store σ]

/-- The host is beside the store. -/
theorem respects_beside (host : η) :
    Store.Respects (fun store : σ => (⟨store, host⟩ : World σ η)) :=
  ⟨fun _ => rfl, fun _ => rfl, fun _ _ => rfl, fun _ _ => rfl, fun _ _ _ => rfl, fun _ _ _ => rfl,
    fun _ => rfl⟩

theorem overConnection_onStore (command : World σ η → Except StoreError α × World σ η)
    (below : σ → Except StoreError α × σ) (same : ∀ world, command world = world.onStore below)
    (world : World σ η) :
    Store.overConnection command world = world.onStore (Store.overConnection below) :=
  Store.overConnection_view ((respects_beside world.host).at "")
    (fun store => same ⟨store, world.host⟩) world.store

/-- Popping the inbox is done to the store alone. -/
theorem popInbox_onStore (inbox : String) (world : World σ η) :
    Peer.popInbox inbox world = world.onStore (Peer.popInbox inbox) :=
  Peer.popInbox_view ((respects_beside world.host).at inbox) world.store

theorem popInbox_of_store {inbox : String} {world : World σ η}
    {outcome : Except StoreError (List String)} {popped : σ}
    (pops : Peer.popInbox inbox world.store = (outcome, popped)) :
    Peer.popInbox inbox world = (outcome, ⟨popped, world.host⟩) := by
  rw [popInbox_onStore, onStore, pops]

theorem host_popInbox (inbox : String) (world : World σ η) :
    (Peer.popInbox inbox world).2.host = world.host := by
  rw [popInbox_onStore]
  rfl

/-- Filling the inbox is done to the store alone. -/
theorem pushInbox_onStore (peer : Peer κ) (records : List String) (world : World σ η) :
    peer.pushInbox records world = world.onStore (peer.pushInbox records) :=
  peer.pushInbox_view ((respects_beside world.host).at _) records world.store

/-- The world with another store beside the host. -/
def mapStore (view : σ → τ) (world : World σ η) : World τ η := ⟨view world.store, world.host⟩

theorem respectsAt_mapStore [Store τ] {inbox : String} {view : σ → τ}
    (respects : Store.RespectsAt inbox view) :
    Store.RespectsAt inbox (mapStore view : World σ η → World τ η) where
  connect world := by
    change onStore Store.connect (mapStore view world) = (onStore Store.connect world).map id _
    rw [onStore, mapStore, respects.connect]
    rfl
  release world := congrArg (World.mk · world.host) (respects.release world.store)
  writeBatch writes world := by
    change onStore (Store.writeBatch writes) (mapStore view world) = (onStore _ world).map id _
    rw [onStore, mapStore, respects.writeBatch]
    rfl
  listLength world := by
    change onStore (Store.listLength inbox) (mapStore view world) = (onStore _ world).map id _
    rw [onStore, mapStore, respects.listLength]
    rfl
  popBatch count world := by
    change onStore (Store.popBatch inbox count) (mapStore view world) = (onStore _ world).map id _
    rw [onStore, mapStore, respects.popBatch]
    rfl
  push records world := by
    change onStore (Store.push inbox records) (mapStore view world) = (onStore _ world).map id _
    rw [onStore, mapStore, respects.push]
    rfl

omit [Store σ] in
theorem hostRespects_mapStore [Host η κ] (view : σ → τ) :
    Host.Respects (mapStore view : World σ η → World τ η) :=
  ⟨fun _ => rfl, fun _ _ => rfl, fun _ _ => rfl, fun _ => rfl, fun _ _ _ => rfl, fun _ _ _ => rfl,
    fun _ _ _ => rfl, fun _ _ => rfl, fun _ _ => rfl, fun _ => rfl, fun _ _ => rfl, fun _ => rfl,
    fun _ _ => rfl, fun _ => rfl, fun _ => rfl⟩

end ClauseSharing.World
