import ClauseSharing.Proofs.Store.Connection
import ClauseSharing.Proofs.Store.Writing

/-! # The store in memory

Whatever a store in memory is asked, and whichever of its faults are switched on, it holds no
records but those that it was given (`LocalStore.Every`). While none of its faults is switched on,
an inbox gives back in order what was put in it (`LocalStore.pushInbox_of_faultless`,
`LocalStore.popInbox_of_faultless`). -/

namespace ClauseSharing

namespace LocalStore

/-- Whether every value of a map is of a kind. -/
def EveryValue (good : String → Prop) (values : Std.ExtTreeMap String String) : Prop :=
  ∀ key record : String, values[key]? = some record → good record

/-- Whether every record under a key or in a list is of a kind. -/
structure Every (good : String → Prop) (store : LocalStore) : Prop where
  values : EveryValue good store.values
  lists : ∀ name, ∀ record ∈ store.list name, good record

section

variable {good : String → Prop} {store : LocalStore}

theorem list_of_lists {first second : LocalStore} (same : first.lists = second.lists)
    (name : String) : first.list name = second.list name := by
  rw [list, list, same]

theorem every_empty : Every good {} where
  values := fun key record found => by
    rw [Std.ExtTreeMap.getElem?_empty] at found
    exact nomatch found
  lists := fun name record inside => by
    rw [list, Std.ExtTreeMap.getD_empty] at inside
    exact absurd inside List.not_mem_nil

/-- A store that holds the same under its keys and in its lists. -/
theorem Every.of_same {other : LocalStore} (every : Every good store)
    (values : other.values = store.values) (lists : other.lists = store.lists) :
    Every good other where
  values := by
    rw [values]
    exact every.values
  lists := fun name record inside => every.lists name record (by
    rw [← list_of_lists lists]
    exact inside)

theorem every_setList (every : Every good store) {name : String} {records : List String}
    (all : ∀ record ∈ records, good record) : Every good (store.setList name records) where
  values := every.values
  lists := fun other record inside => by
    rw [list_setList] at inside
    by_cases same : other = name
    · rw [if_pos same] at inside
      exact all record inside
    · rw [if_neg same] at inside
      exact every.lists other record inside

theorem every_connect (every : Every good store) : Every good store.connect.2 := by
  unfold connect
  split
  · exact every
  · exact every.of_same rfl rfl

theorem every_release (every : Every good store) : Every good store.release :=
  every.of_same rfl rfl

theorem every_listLength (name : String) (every : Every good store) :
    Every good (store.listLength name).2 :=
  every.of_same rfl rfl

/-- What is found after writes was written or was there before. -/
theorem mem_or_of_getElem?_writes {writes : List Write} {values : Std.ExtTreeMap String String}
    {key record : String} (found : (writes.foldl write values)[key]? = some record) :
    (key, record) ∈ writes ∨ values[key]? = some record := by
  induction writes generalizing values with
  | nil => exact .inr found
  | cons pair writes ih =>
    rcases ih found with later | before
    · exact .inl (List.mem_cons_of_mem _ later)
    · rw [write, Std.ExtTreeMap.getElem?_insert] at before
      split at before
      · rename_i same
        cases before
        rw [← Std.LawfulEqOrd.eq_of_compare same]
        exact .inl (List.mem_cons_self ..)
      · exact .inr before

theorem getElem?_writes_of_forall_ne {writes : List Write} {values : Std.ExtTreeMap String String}
    {key : String} (others : ∀ pair ∈ writes, pair.1 ≠ key) :
    (writes.foldl write values)[key]? = values[key]? := by
  induction writes generalizing values with
  | nil => rfl
  | cons pair writes ih =>
    obtain ⟨first, rest⟩ := List.forall_mem_cons.mp others
    rw [List.foldl_cons, ih rest, write, Std.ExtTreeMap.getElem?_insert,
      if_neg fun same => first (Std.LawfulEqOrd.eq_of_compare same)]

/-- Under different keys, all that was written is found. -/
theorem getElem?_writes_of_mem {writes : List Write} {values : Std.ExtTreeMap String String}
    (apart : writes.Pairwise fun first second => first.1 ≠ second.1) {pair : Write}
    (inside : pair ∈ writes) : (writes.foldl write values)[pair.1]? = some pair.2 := by
  induction writes generalizing values with
  | nil => exact absurd inside List.not_mem_nil
  | cons first writes ih =>
    obtain ⟨others, rest⟩ := List.pairwise_cons.mp apart
    rcases List.mem_cons.mp inside with rfl | later
    · rw [List.foldl_cons, getElem?_writes_of_forall_ne fun other inside =>
        (others other inside).symm,
        write, Std.ExtTreeMap.getElem?_insert_self]
    · exact ih rest later

theorem everyValue_writes {writes : List Write} {values : Std.ExtTreeMap String String}
    (every : EveryValue good values) (new : ∀ pair ∈ writes, good pair.2) :
    EveryValue good (writes.foldl write values) := by
  intro key record found
  rcases mem_or_of_getElem?_writes found with written | before
  · exact new (key, record) written
  · exact every key record before

/-- A batch is written in full even where its replies are lost. -/
theorem every_writeBatch {writes : List Write} (every : Every good store)
    (new : ∀ pair ∈ writes, good pair.2) : Every good (store.writeBatch writes).2 := by
  have written : Every good { store with
      values := writes.foldl write store.values
      use := { store.use with
        batches := store.use.batches + 1
        writes := store.use.writes + writes.length } } :=
    ⟨everyValue_writes every.values new, every.lists⟩
  unfold writeBatch
  dsimp only
  split
  · exact written
  · exact written

theorem every_popBatch (name : String) (count : Nat) (every : Every good store) :
    Every good (store.popBatch name count).2 ∧
      ∀ records, (store.popBatch name count).1 = .ok records → ∀ record ∈ records, good record := by
  have asked : Every good { store with use := { store.use with pops := store.use.pops + 1 } } :=
    every.of_same rfl rfl
  unfold popBatch
  dsimp only
  split
  · exact ⟨asked, fun _ failed => nomatch failed⟩
  · constructor
    · refine every_setList asked fun record inside => ?_
      have waiting := List.mem_of_mem_drop (List.mem_reverse.mp inside)
      exact every.lists name record (List.mem_reverse.mp waiting)
    · rintro records done record inside
      cases done
      exact every.lists name record (List.mem_reverse.mp (List.mem_of_mem_take inside))

theorem every_push (name : String) {records : List String} (every : Every good store)
    (new : ∀ record ∈ records, good record) : Every good (store.push name records).2 := by
  refine every_setList every fun record inside => ?_
  rcases List.mem_append.mp inside with pushed | before
  · exact new record (List.mem_reverse.mp pushed)
  · exact every.lists name record before

theorem every_flush (store : LocalStore) : Every good store.flush.2 :=
  every_empty.of_same rfl rfl

theorem fetchInbox_of_nil {inbox : String} (none : store.list inbox = []) :
    Peer.fetchInbox inbox store = (.ok (0, []), (store.listLength inbox).2) := by
  have asks : Store.listLength inbox store = (.ok 0, (store.listLength inbox).2) := by
    change store.listLength inbox = _
    rw [listLength, none]
    rfl
  rw [Peer.fetchInbox, asks]
  rfl

theorem fetchInbox_of_ne_nil {inbox : String} (waiting : store.list inbox ≠ []) :
    Peer.fetchInbox inbox store =
      match (store.listLength inbox).2.popBatch inbox (store.list inbox).length with
      | (.error reason, store) => (.error reason, store)
      | (.ok records, popped) => (.ok ((store.list inbox).length, records), popped) := by
  have asks : Store.listLength inbox store =
      (.ok (store.list inbox).length, (store.listLength inbox).2) := rfl
  have positive : (store.list inbox).length ≠ 0 := fun zero =>
    waiting (List.length_eq_zero_iff.mp zero)
  rw [Peer.fetchInbox, asks]
  generalize (store.list inbox).length = pending at positive ⊢
  cases pending with
  | zero => exact absurd rfl positive
  | succ fewer =>
    have pops : Store.popBatch inbox (fewer + 1) (store.listLength inbox).2 =
        (store.listLength inbox).2.popBatch inbox (fewer + 1) := rfl
    simp only [pops]
    cases (store.listLength inbox).2.popBatch inbox (fewer + 1) with
    | mk outcome popped => cases outcome <;> rfl

theorem every_fetchInbox (inbox : String) (every : Every good store) :
    Every good (Peer.fetchInbox inbox store).2 ∧
      ∀ fetched, (Peer.fetchInbox inbox store).1 = .ok fetched →
        ∀ record ∈ fetched.2, good record := by
  have asked := every_listLength inbox every
  by_cases none : store.list inbox = []
  · rw [fetchInbox_of_nil none]
    refine ⟨asked, ?_⟩
    rintro fetched done record inside
    cases done
    exact absurd inside List.not_mem_nil
  · obtain ⟨kept, returned⟩ := every_popBatch inbox (store.list inbox).length asked
    rw [fetchInbox_of_ne_nil none]
    cases popped : (store.listLength inbox).2.popBatch inbox (store.list inbox).length with
    | mk outcome next =>
      rw [popped] at kept returned
      cases outcome with
      | error reason => exact ⟨kept, fun _ failed => nomatch failed⟩
      | ok records =>
        refine ⟨kept, ?_⟩
        rintro fetched done
        cases done
        exact returned records rfl

theorem every_overConnection {α : Type} {returns : α → Prop}
    {command : LocalStore → Except StoreError α × LocalStore}
    (commands : ∀ store, Every good store → Every good (command store).2 ∧
      ∀ value, (command store).1 = .ok value → returns value) (every : Every good store) :
    Every good (Store.overConnection command store).2 ∧
      ∀ value, (Store.overConnection command store).1 = .ok value → returns value := by
  have connected := every_connect every
  rcases Store.overConnection_cases command store with
    ⟨reason, next, connects, refused⟩ | ⟨next, connects, done⟩
  · change store.connect = _ at connects
    rw [connects] at connected
    rw [refused]
    exact ⟨connected, fun _ failed => nomatch failed⟩
  · change store.connect = _ at connects
    rw [connects] at connected
    rw [done]
    obtain ⟨kept, returned⟩ := commands next connected
    exact ⟨every_release kept, returned⟩

/-- Records popped from an inbox were in the store, and the others still are. -/
theorem every_popInbox (inbox : String) (every : Every good store) :
    Every good (Peer.popInbox inbox store).2 ∧
      ∀ records, (Peer.popInbox inbox store).1 = .ok records → ∀ record ∈ records, good record := by
  obtain ⟨kept, returned⟩ := every_overConnection (fun _ => every_fetchInbox inbox) every
  unfold Peer.popInbox
  cases done : Store.overConnection (Peer.fetchInbox inbox) store with
  | mk outcome next =>
    rw [done] at kept returned
    cases outcome with
    | error reason => exact ⟨kept, fun _ failed => nomatch failed⟩
    | ok fetched =>
      dsimp only
      split
      · refine ⟨kept, ?_⟩
        rintro records same
        cases same
        exact returned fetched rfl
      · exact ⟨kept, fun _ failed => nomatch failed⟩

end

section

variable (store : LocalStore)

theorem values_connect : store.connect.2.values = store.values := by
  rw [connect]
  split
  · rfl
  · rfl

theorem values_writeBatch (writes : List Write) :
    (store.writeBatch writes).2.values = writes.foldl write store.values := by
  rw [writeBatch]
  split
  · rfl
  · rfl

theorem values_popBatch (name : String) (count : Nat) :
    (store.popBatch name count).2.values = store.values := by
  rw [popBatch]
  dsimp only
  split
  · rfl
  · rfl

theorem values_overConnection {α : Type} {command : LocalStore → Except StoreError α × LocalStore}
    (commands : ∀ store, (command store).2.values = store.values) :
    (Store.overConnection command store).2.values = store.values := by
  have connected := store.values_connect
  rcases Store.overConnection_cases command store with
    ⟨reason, next, connects, refused⟩ | ⟨next, connects, done⟩
  · change store.connect = _ at connects
    rw [connects] at connected
    rw [refused]
    exact connected
  · change store.connect = _ at connects
    rw [connects] at connected
    rw [done]
    exact (commands next).trans connected

theorem values_fetchInbox (inbox : String) :
    (Peer.fetchInbox inbox store).2.values = store.values :=
  Peer.fetchInbox_keeps (motive := fun next : LocalStore => next.values = store.values)
    (fun _ same => same) (fun count next same => (next.values_popBatch inbox count).trans same) rfl

/-- Popping an inbox leaves all values as they are, whatever comes of it. -/
theorem values_popInbox (inbox : String) :
    (Peer.popInbox inbox store).2.values = store.values := by
  rw [Peer.popInbox_snd]
  exact store.values_overConnection (values_fetchInbox · inbox)

end

section

variable {store : LocalStore}

theorem connect_of_reachable (reachable : store.unreachable = false) :
    store.connect = (.ok (), { store with
      use := { store.use with opened := store.use.opened + 1, held := store.use.held + 1 } }) := by
  rw [connect, reachable]
  rfl

/-- A faultless store is connected to, and is as it was but for the use made of it. -/
theorem connect_of_faultless (faultless : store.Faultless) :
    ∃ connected, Store.connect store = (.ok (), connected) ∧ connected.Faultless ∧
      connected.values = store.values ∧ connected.lists = store.lists ∧
      connected.room = store.room :=
  ⟨_, connect_of_reachable faultless.reachable,
    ⟨faultless.reachable, faultless.replies, faultless.pops⟩, rfl, rfl, rfl⟩

theorem overConnection_of_faultless {α : Type} (faultless : store.Faultless)
    (command : LocalStore → Except StoreError α × LocalStore) :
    ∃ connected, connected.Faultless ∧ connected.values = store.values ∧
      connected.lists = store.lists ∧ connected.room = store.room ∧
      Store.overConnection command store =
        ((command connected).1, (command connected).2.release) := by
  obtain ⟨connected, connects, still, values, lists, room⟩ := connect_of_faultless faultless
  refine ⟨connected, still, values, lists, room, ?_⟩
  rcases Store.overConnection_cases command store with
    ⟨reason, next, refused, -⟩ | ⟨next, reached, done⟩
  · cases connects.symm.trans refused
  · cases connects.symm.trans reached
    exact done

/-- What is put in the inbox of a peer stands there in reverse, to be popped in order. -/
theorem pushInbox_of_faultless {κ : Type} (peer : Peer κ) (faultless : store.Faultless)
    (records : List String) :
    ∃ length pushed, peer.pushInbox records store = (.ok length, pushed) ∧ pushed.Faultless ∧
      pushed.values = store.values ∧ pushed.room = store.room ∧
      pushed.list peer.config.store.inbox =
        records.reverse ++ store.list peer.config.store.inbox := by
  obtain ⟨connected, still, values, lists, room, opens⟩ :=
    overConnection_of_faultless faultless (Store.push peer.config.store.inbox records)
  let waiting := records.reverse ++ connected.list peer.config.store.inbox
  have pushes : Store.push peer.config.store.inbox records connected =
      (.ok waiting.length, connected.setList peer.config.store.inbox waiting) := rfl
  refine ⟨waiting.length, (connected.setList peer.config.store.inbox waiting).release, ?_,
    ⟨still.reachable, still.replies, still.pops⟩, values, room, ?_⟩
  · rw [Peer.pushInbox, opens, pushes]
    rfl
  · change (connected.setList _ waiting).list _ = _
    rw [list_setList, if_pos rfl, ← list_of_lists lists]

theorem popBatch_all (store : LocalStore) (unlimited : store.popLimit = none) {name : String}
    (bounded : (store.list name).length ≤ store.room) :
    store.popBatch name (store.list name).length = (.ok (store.list name).reverse,
      { store with use := { store.use with pops := store.use.pops + 1 } }.setList name []) := by
  have count : within store.popLimit (store.list name).length = (store.list name).length := by
    rw [unlimited]
    rfl
  have all : (store.list name).reverse.length ≤ (store.list name).length :=
    Nat.le_of_eq (List.length_reverse ..)
  rw [popBatch, count, if_neg (Nat.not_lt_of_le bounded)]
  dsimp only
  rw [List.take_of_length_le all, List.drop_of_length_le all]
  rfl

/-- The inbox of a faultless store is popped from its tail, all at once, if there is room for it. -/
theorem popInbox_of_faultless (faultless : store.Faultless) {inbox : String}
    (bounded : (store.list inbox).length ≤ store.room) :
    ∃ popped, Peer.popInbox inbox store = (.ok (store.list inbox).reverse, popped) ∧
      popped.Faultless ∧ popped.values = store.values ∧ popped.room = store.room ∧
      popped.list inbox = [] := by
  obtain ⟨connected, still, values, lists, room, opens⟩ :=
    overConnection_of_faultless faultless (Peer.fetchInbox inbox)
  rw [list_of_lists lists.symm, ← room] at bounded
  rw [list_of_lists lists.symm, Peer.popInbox, opens]
  by_cases none : connected.list inbox = []
  · rw [fetchInbox_of_nil none, none]
    exact ⟨_, rfl, ⟨still.reachable, still.replies, still.pops⟩, values, room, none⟩
  · let asked := (connected.listLength inbox).2
    have pops : asked.popBatch inbox (connected.list inbox).length =
        (.ok (connected.list inbox).reverse, _) := popBatch_all asked still.pops bounded
    rw [fetchInbox_of_ne_nil none, pops]
    dsimp only
    rw [if_pos (List.length_reverse ..)]
    refine ⟨_, rfl, ⟨still.reachable, still.replies, still.pops⟩, values, room, ?_⟩
    exact (list_setList ..).trans (if_pos rfl)

end

end LocalStore

end ClauseSharing
