import ClauseSharing.Observation.Logged
import ClauseSharing.Store.LocalStore
import ClauseSharing.World

/-! # Batches that are acknowledged

Batches are written one after the other, and each is acknowledged, if the store takes all of them
(`Store.Acknowledges`). Logging the calls or putting a host beside the store changes nothing about
this, and a store in memory that loses no replies takes whatever it is given
(`LocalStore.acknowledges`). -/

namespace ClauseSharing

variable {ω σ η κ : Type}

namespace Store

/-- The store acknowledges batches written one after the other, and `last` is the world after
them. -/
inductive Acknowledges [Store ω] : ω → List (List Write) → ω → Prop where
  | none {world : ω} : Acknowledges world [] world
  | batch {world next last : ω} {writes : List Write} {batches : List (List Write)} :
      Store.writeBatch writes world = (.ok (), next) → Acknowledges next batches last →
      Acknowledges world (writes :: batches) last

theorem acknowledges_append [Store ω] {world last : ω} {front rest : List (List Write)} :
    Acknowledges world (front ++ rest) last ↔
      ∃ middle, Acknowledges world front middle ∧ Acknowledges middle rest last := by
  constructor
  · intro acknowledged
    induction front generalizing world with
    | nil => exact ⟨world, .none, acknowledged⟩
    | cons writes front ih =>
      cases acknowledged with
      | batch written others =>
        obtain ⟨middle, before, after⟩ := ih others
        exact ⟨middle, .batch written before, after⟩
  · rintro ⟨middle, before, after⟩
    induction before with
    | none => exact after
    | batch written _ ih => exact .batch written (ih after)

/-- A host beside the store stays as it is. -/
theorem Acknowledges.beside [Store σ] {store last : σ} {batches : List (List Write)}
    (acknowledged : Acknowledges store batches last) (host : η) :
    Acknowledges (⟨store, host⟩ : World σ η) batches ⟨last, host⟩ := by
  induction acknowledged with
  | none => exact .none
  | @batch store next last writes batches written _ ih =>
    have beside : Store.writeBatch writes (⟨store, host⟩ : World σ η) = (.ok (), ⟨next, host⟩) := by
      change World.onStore (Store.writeBatch writes) _ = _
      rw [World.onStore, written]
    exact .batch beside ih

/-- Every batch is logged once, in order. -/
theorem Acknowledges.logged [Store ω] {world last : ω} {batches : List (List Write)}
    (acknowledged : Acknowledges world batches last) (calls : Array (Call κ)) :
    Acknowledges (⟨calls, world⟩ : Logged κ ω) batches
      ⟨calls ++ (batches.map Call.writeBatch).toArray, last⟩ := by
  induction acknowledged generalizing calls with
  | none =>
    rw [List.map_nil, Array.append_empty]
    exact .none
  | @batch world next last writes batches written _ ih =>
    have noted : Store.writeBatch writes (⟨calls, world⟩ : Logged κ ω) =
        (.ok (), ⟨calls.push (.writeBatch writes), next⟩) := by
      change Logged.ask (.writeBatch writes) (Store.writeBatch writes) _ = _
      rw [Logged.ask, written]
    have order : calls ++ ((writes :: batches).map Call.writeBatch).toArray =
        calls.push (.writeBatch writes) ++ (batches.map Call.writeBatch).toArray := by
      apply Array.ext'
      simp
    rw [order]
    exact .batch noted (ih _)

end Store

namespace LocalStore

/-- A store none of whose faults is switched on. -/
structure Faultless (store : LocalStore) : Prop where
  reachable : store.unreachable = false
  replies : store.replyLimit = none
  pops : store.popLimit = none

/-- A store that loses no replies takes all batches, and holds what is written last under each
key. -/
theorem acknowledges {store : LocalStore} (faultless : store.Faultless)
    (batches : List (List Write)) :
    ∃ last, Store.Acknowledges store batches last ∧ last.Faultless ∧ last.lists = store.lists ∧
      last.room = store.room ∧ last.values = batches.flatten.foldl write store.values := by
  induction batches generalizing store with
  | nil => exact ⟨store, .none, faultless, rfl, rfl, rfl⟩
  | cons writes batches ih =>
    let next : LocalStore := { store with
      values := writes.foldl write store.values
      use := { store.use with
        batches := store.use.batches + 1
        writes := store.use.writes + writes.length } }
    have received : within store.replyLimit writes.length = writes.length := by
      rw [faultless.replies]
      rfl
    have written : Store.writeBatch writes store = (.ok (), next) := if_pos received
    have without : next.Faultless := ⟨faultless.reachable, faultless.replies, faultless.pops⟩
    obtain ⟨last, acknowledged, still, lists, room, values⟩ := ih without
    refine ⟨last, .batch written acknowledged, still, lists, room, ?_⟩
    rw [values, List.flatten_cons, List.foldl_append]

end LocalStore

end ClauseSharing
