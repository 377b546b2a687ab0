import ClauseSharing.Proofs.Publish.Pieces
import ClauseSharing.Proofs.Store.Connection
import ClauseSharing.Proofs.View
import ClauseSharing.Store.LocalStore

/-! # One member's part of a shared store

A member writes under the keys of its own records and uses its own inbox. What it does to a shared
store can therefore be done to a small store of its own, which has its inbox and nothing under any
key (`LocalStore.ownPart`), and be put back afterwards (`LocalStore.withPart`). The commands on that
inbox respect this (`LocalStore.respectsAt_withPart`), and what different members put back can be
put back in any order (`LocalStore.withPart_comm`). -/

namespace ClauseSharing

/-- Whether a property of worlds is kept by the commands that a peer with this inbox gives. -/
structure Store.KeepsAt {ω : Type} [Store ω] (inbox : String) (holds : ω → Prop) : Prop where
  connect : ∀ world, holds world → holds (connect world).2
  release : ∀ world, holds world → holds (release world)
  writeBatch : ∀ writes world, holds world → holds (writeBatch writes world).2
  listLength : ∀ world, holds world → holds (listLength inbox world).2
  popBatch : ∀ count world, holds world → holds (popBatch inbox count world).2
  push : ∀ records world, holds world → holds (push inbox records world).2

theorem Store.KeepsAt.overConnection {ω α : Type} [Store ω] {inbox : String} {holds : ω → Prop}
    (keeps : Store.KeepsAt inbox holds) {command : ω → Except StoreError α × ω}
    (kept : ∀ world, holds world → holds (command world).2) {world : ω} (before : holds world) :
    holds (Store.overConnection command world).2 := by
  have connected := keeps.connect world before
  rcases Store.overConnection_cases command world with
    ⟨reason, next, connects, refused⟩ | ⟨next, connects, done⟩
  · rw [connects] at connected
    rw [refused]
    exact connected
  · rw [connects] at connected
    rw [done]
    exact keeps.release _ (kept next connected)

namespace LocalStore

/-- A store with the inbox and the faults of a store, in which nothing has been done yet. -/
def ownPart (inbox : String) (store : LocalStore) : LocalStore :=
  { store with
    values := ∅
    lists := (∅ : Std.ExtTreeMap String (List String)).alter inbox fun _ => store.lists[inbox]?
    use := { held := store.use.held } }

/-- A store in which what has been done to a part of it is done to the store. -/
def withPart (inbox : String) (store part : LocalStore) : LocalStore :=
  { part with
    values := store.values ∪ part.values
    lists := store.lists.alter inbox fun _ => part.lists[inbox]?
    use := {
      opened := store.use.opened + part.use.opened
      held := part.use.held
      batches := store.use.batches + part.use.batches
      writes := store.use.writes + part.use.writes
      pops := store.use.pops + part.use.pops
      lengthQueries := store.use.lengthQueries + part.use.lengthQueries } }

/-- Whether two stores have the same faults, and room for as many records. -/
structure SameFaults (one other : LocalStore) : Prop where
  unreachable : one.unreachable = other.unreachable
  replyLimit : one.replyLimit = other.replyLimit
  popLimit : one.popLimit = other.popLimit
  room : one.room = other.room

theorem SameFaults.trans {one other third : LocalStore} (first : one.SameFaults other)
    (second : other.SameFaults third) : one.SameFaults third :=
  ⟨first.unreachable.trans second.unreachable, first.replyLimit.trans second.replyLimit,
    first.popLimit.trans second.popLimit, first.room.trans second.room⟩

/-- No command switches a fault or takes up room. -/
theorem keepsAt_sameFaults (inbox : String) (start : LocalStore) :
    Store.KeepsAt inbox (SameFaults · start) where
  connect store same := by
    change SameFaults store.connect.2 start
    rw [connect]
    split
    · exact same
    · exact ⟨same.unreachable, same.replyLimit, same.popLimit, same.room⟩
  release _ same := ⟨same.unreachable, same.replyLimit, same.popLimit, same.room⟩
  writeBatch writes store same := by
    change SameFaults (store.writeBatch writes).2 start
    rw [writeBatch]
    dsimp only
    split
    · exact ⟨same.unreachable, same.replyLimit, same.popLimit, same.room⟩
    · exact ⟨same.unreachable, same.replyLimit, same.popLimit, same.room⟩
  listLength _ same := ⟨same.unreachable, same.replyLimit, same.popLimit, same.room⟩
  popBatch count store same := by
    change SameFaults (store.popBatch inbox count).2 start
    rw [popBatch]
    dsimp only
    split
    · exact ⟨same.unreachable, same.replyLimit, same.popLimit, same.room⟩
    · exact ⟨same.unreachable, same.replyLimit, same.popLimit, same.room⟩
  push _ _ same := ⟨same.unreachable, same.replyLimit, same.popLimit, same.room⟩

section

variable {inbox : String} {store part : LocalStore}

theorem getElem?_lists_withPart (name : String) :
    (store.withPart inbox part).lists[name]? =
      if name = inbox then part.lists[inbox]? else store.lists[name]? := by
  rw [withPart, Std.ExtTreeMap.getElem?_alter]
  by_cases own : name = inbox
  · subst own
    rw [if_pos Std.ReflCmp.compare_self, if_pos rfl]
  · rw [if_neg own, if_neg fun same => own (Std.LawfulEqOrd.eq_of_compare same).symm]

theorem lists_ownPart_self : (store.ownPart inbox).lists[inbox]? = store.lists[inbox]? := by
  rw [ownPart, Std.ExtTreeMap.getElem?_alter, if_pos Std.ReflCmp.compare_self]

@[simp] theorem list_withPart_self : (store.withPart inbox part).list inbox = part.list inbox := by
  rw [list, list, Std.ExtTreeMap.getD_eq_getD_getElem?, Std.ExtTreeMap.getD_eq_getD_getElem?,
    getElem?_lists_withPart, if_pos rfl]

/-- Nothing done to a part is nothing done to the store. -/
theorem withPart_ownPart (inbox : String) (store : LocalStore) :
    store.withPart inbox (store.ownPart inbox) = store := by
  apply LocalStore.ext
  · apply Std.ExtTreeMap.ext_getElem?
    intro key
    rw [withPart, Std.ExtTreeMap.getElem?_union, ownPart,
      Std.ExtTreeMap.getElem?_empty, Option.none_or]
  · apply Std.ExtTreeMap.ext_getElem?
    intro name
    rw [getElem?_lists_withPart, lists_ownPart_self]
    split
    · rename_i own
      rw [own]
    · rfl
  · rfl
  · rfl
  · rfl
  · rfl
  · rfl

theorem insert_union (values more : Std.ExtTreeMap String String) (key value : String) :
    (values ∪ more).insert key value = values ∪ more.insert key value := by
  apply Std.ExtTreeMap.ext_getElem?
  intro other
  simp only [Std.ExtTreeMap.getElem?_insert, Std.ExtTreeMap.getElem?_union]
  split
  · rfl
  · rfl

theorem writes_union (writes : List Write) (values more : Std.ExtTreeMap String String) :
    writes.foldl write (values ∪ more) = values ∪ writes.foldl write more := by
  induction writes generalizing more with
  | nil => rfl
  | cons pair writes ih => rw [List.foldl_cons, write, insert_union, ih, List.foldl_cons, write]

theorem setList_withPart (records : List String) :
    (store.withPart inbox part).setList inbox records =
      store.withPart inbox (part.setList inbox records) := by
  apply LocalStore.ext
  · rfl
  · apply Std.ExtTreeMap.ext_getElem?
    intro name
    rw [getElem?_lists_withPart, setList, setList]
    by_cases own : name = inbox
    · subst own
      rw [if_pos rfl]
      split
      · rw [Std.ExtTreeMap.getElem?_erase_self, Std.ExtTreeMap.getElem?_erase_self]
      · rw [Std.ExtTreeMap.getElem?_insert_self, Std.ExtTreeMap.getElem?_insert_self]
    · have apart : compare inbox name ≠ .eq := fun same =>
        own (Std.LawfulEqOrd.eq_of_compare same).symm
      rw [if_neg own]
      split
      · rw [Std.ExtTreeMap.getElem?_erase, if_neg apart, getElem?_lists_withPart, if_neg own]
      · rw [Std.ExtTreeMap.getElem?_insert, if_neg apart, getElem?_lists_withPart, if_neg own]
  · rfl
  · rfl
  · rfl
  · rfl
  · rfl

end

/-- **Commands on an inbox do to a store what they do to the part of it.** -/
theorem respectsAt_withPart (inbox : String) (store : LocalStore) :
    Store.RespectsAt inbox (store.withPart inbox) where
  connect part := by
    have refuses : (store.withPart inbox part).unreachable = part.unreachable := rfl
    change connect _ = (connect part).map id _
    rw [connect, connect, refuses]
    split
    · rfl
    · rfl
  release _ := rfl
  writeBatch writes part := by
    have written : writes.foldl write (store.withPart inbox part).values =
      store.values ∪ writes.foldl write part.values := writes_union writes store.values part.values
    change writeBatch writes _ = (writeBatch writes part).map id _
    rw [writeBatch, writeBatch, written]
    have limit : (store.withPart inbox part).replyLimit = part.replyLimit := rfl
    have counted : (store.withPart inbox part).use.writes + writes.length =
      store.use.writes + (part.use.writes + writes.length) := Nat.add_assoc ..
    dsimp only
    rw [limit, counted]
    split
    · rfl
    · rfl
  listLength part := by
    change listLength inbox _ = (listLength inbox part).map id _
    rw [listLength, listLength, list_withPart_self]
    rfl
  popBatch count part := by
    have limit : (store.withPart inbox part).popLimit = part.popLimit := rfl
    have room : (store.withPart inbox part).room = part.room := rfl
    let asked : LocalStore := { part with use := { part.use with pops := part.use.pops + 1 } }
    change popBatch inbox count _ = (popBatch inbox count part).map id _
    unfold popBatch
    simp only [list_withPart_self, limit, room]
    split
    · rfl
    · exact congrArg (Prod.mk _) (@setList_withPart inbox store asked _)
  push records part := by
    change push inbox records _ = (push inbox records part).map id _
    rw [push, push, list_withPart_self]
    exact congrArg (Prod.mk _) (setList_withPart _)

section

variable {settings others : StoreSettings} {store part otherPart : LocalStore}

/-- Whether a part of a store is what a member with these settings may have made of its own part. -/
structure PartOf (settings : StoreSettings) (store part : LocalStore) : Prop where
  faults : SameFaults part store
  held : part.use.held = store.use.held
  keys : ∀ key : String, part.values[key]? ≠ none → ∃ identifier,
    key = settings.recordKey identifier

/-- What one member puts back is not in the part of another one. -/
theorem ownPart_withPart (partOf : PartOf settings store part)
    (inboxes : settings.inbox ≠ others.inbox) :
    (store.withPart settings.inbox part).ownPart others.inbox = store.ownPart others.inbox := by
  have inbox : (store.withPart settings.inbox part).lists[others.inbox]? =
      store.lists[others.inbox]? := by
    rw [getElem?_lists_withPart, if_neg inboxes.symm]
  apply LocalStore.ext
  · rfl
  · rw [ownPart, inbox]
    rfl
  · exact congrArg (fun held => ({ held } : StoreUse)) partOf.held
  · exact partOf.faults.unreachable
  · exact partOf.faults.replyLimit
  · exact partOf.faults.popLimit
  · exact partOf.faults.room

/-- What two members put back can be put back in either order. -/
theorem withPart_comm (partOf : PartOf settings store part)
    (otherPartOf : PartOf others store otherPart) (stems : settings.stem ≠ others.stem)
    (inboxes : settings.inbox ≠ others.inbox) :
    (store.withPart settings.inbox part).withPart others.inbox otherPart =
      (store.withPart others.inbox otherPart).withPart settings.inbox part := by
  apply LocalStore.ext
  · apply Std.ExtTreeMap.ext_getElem?
    intro key
    simp only [withPart, Std.ExtTreeMap.getElem?_union]
    -- A key that both parts have would be the key of a record under both stems.
    by_cases first : part.values[key]? = none
    · rw [first, Option.none_or, Option.none_or]
    · by_cases second : otherPart.values[key]? = none
      · rw [second, Option.none_or, Option.none_or]
      · obtain ⟨one, firstKey⟩ := partOf.keys key first
        obtain ⟨other, secondKey⟩ := otherPartOf.keys key second
        exact absurd (StoreSettings.recordKey_injective (firstKey.symm.trans secondKey)).1 stems
  · apply Std.ExtTreeMap.ext_getElem?
    intro name
    simp only [getElem?_lists_withPart]
    by_cases first : name = settings.inbox
    · rw [if_pos first, if_pos first, if_neg fun second => inboxes (first.symm.trans second)]
    · rw [if_neg first, if_neg first]
  · have held : part.use.held = otherPart.use.held := partOf.held.trans otherPartOf.held.symm
    simp only [withPart, held, Nat.add_right_comm]
  · exact otherPartOf.faults.unreachable.trans partOf.faults.unreachable.symm
  · exact otherPartOf.faults.replyLimit.trans partOf.faults.replyLimit.symm
  · exact otherPartOf.faults.popLimit.trans partOf.faults.popLimit.symm
  · exact otherPartOf.faults.room.trans partOf.faults.room.symm

end

end LocalStore

end ClauseSharing
