import ClauseSharing.Proofs.Import.Frame
import ClauseSharing.Proofs.Store.Queue
import ClauseSharing.Proofs.World

/-! # Producers in between

An import asks for the length of its inbox and then pops as many records, by two commands. Other
connections can use the store before each of them (`Shared`). As long as they only add to the inbox,
pops are not limited and there is room, the import gets all that waited when it asked, and what was
pushed since then waits behind (`Shared.popInbox_of_feeding`). -/

namespace ClauseSharing

/-- A store in memory that other connections use too. Before each command of one's own, one batch of
theirs is given. -/
structure Shared where
  store : LocalStore
  /-- The commands of the others before each command of one's own that is still to come. -/
  others : List (List StoreCommand)

namespace Shared

variable {α : Type}

/-- The store after the next batch of the others. -/
def turn (shared : Shared) : Shared where
  store := (StoreCommand.performAll shared.store (shared.others.headD [])).2
  others := shared.others.tail

/-- Gives a command after the next batch of the others. -/
def after (command : LocalStore → α × LocalStore) (shared : Shared) : α × Shared :=
  let (answer, store) := command shared.turn.store
  (answer, { shared.turn with store })

theorem after_eq {command : LocalStore → α × LocalStore} {shared : Shared} {answer : α}
    {store : LocalStore} (done : command shared.turn.store = (answer, store)) :
    after command shared = (answer, { shared.turn with store }) := by
  rw [after, done]

instance : Store Shared where
  connect := after Store.connect
  release shared := { shared.turn with store := Store.release shared.turn.store }
  writeBatch writes := after (Store.writeBatch writes)
  listLength name := after (Store.listLength name)
  popBatch name count := after (Store.popBatch name count)
  push name records := after (Store.push name records)
  flush := after Store.flush

variable {inbox : String} {shared : Shared}

/-- Whether the others take nothing from a list, but may add to it, and no fault stands in the way
of popping all of it. -/
structure Feeding (inbox : String) (shared : Shared) : Prop where
  feeds : ∀ batch ∈ shared.others, ∀ command ∈ batch, command.Feeds inbox
  reachable : shared.store.unreachable = false
  unlimited : shared.store.popLimit = none

/-- What the others put in a list before the next commands of one's own, as many as are counted. -/
def pushedBefore (inbox : String) (count : Nat) (others : List (List StoreCommand)) : List String :=
  StoreCommand.pushedAll inbox (others.take count).flatten

theorem pushedBefore_succ (count : Nat) (others : List (List StoreCommand)) :
    pushedBefore inbox (count + 1) others =
      StoreCommand.pushedAll inbox (others.headD []) ++ pushedBefore inbox count others.tail := by
  cases others with
  | nil => rw [pushedBefore, pushedBefore, List.tail_nil, List.take_nil, List.take_nil]; rfl
  | cons batch others =>
    rw [pushedBefore, List.take_succ_cons, List.flatten_cons, StoreCommand.pushedAll_append]
    rfl

theorem pushedBefore_snoc (count : Nat) (others : List (List StoreCommand)) :
    pushedBefore inbox (count + 1) others =
      pushedBefore inbox count others ++ StoreCommand.pushedAll inbox
      ((others.drop count).headD []) := by
  induction count generalizing others with
  | zero => rw [pushedBefore_succ]; exact List.append_nil _
  | succ count ih =>
    rw [pushedBefore_succ, ih, pushedBefore_succ, List.append_assoc, List.drop_tail]

/-- Whether a command of one's own that leaves a list as it is leads from one shared store to
another. -/
structure Follows (inbox : String) (shared next : Shared) : Prop where
  feeding : next.Feeding inbox
  others : next.others = shared.others.tail
  room : next.store.room = shared.store.room
  queue : next.store.queue inbox =
    shared.store.queue inbox ++ StoreCommand.pushedAll inbox (shared.others.headD [])

theorem Feeding.turn (feeding : shared.Feeding inbox) : Follows inbox shared shared.turn := by
  have batch : ∀ command ∈ shared.others.headD [], command.Feeds inbox := by
    cases others : shared.others with
    | nil => exact fun _ none => absurd none List.not_mem_nil
    | cons batch rest => exact feeding.feeds batch (others ▸ List.mem_cons_self)
  have faults := StoreCommand.sameFaults_performAll (shared.others.headD []) shared.store
  exact ⟨⟨fun batch inside => feeding.feeds batch (List.mem_of_mem_tail inside),
    faults.unreachable.trans feeding.reachable, faults.popLimit.trans feeding.unlimited⟩, rfl,
    faults.room, StoreCommand.queue_performAll batch shared.store⟩

theorem Follows.of_same {turned : Shared} (follows : Follows inbox shared turned)
    {store : LocalStore} (lists : store.lists = turned.store.lists)
    (faults : store.SameFaults turned.store) :
    Follows inbox shared { turned with store } where
  feeding := ⟨follows.feeding.feeds, faults.unreachable.trans follows.feeding.reachable,
    faults.popLimit.trans follows.feeding.unlimited⟩
  others := follows.others
  room := faults.room.trans follows.room
  queue := (LocalStore.queue_of_lists lists).trans follows.queue

theorem connect_of_feeding (feeding : shared.Feeding inbox) :
    ∃ next, Store.connect shared = (.ok (), next) ∧ Follows inbox shared next := by
  have turned := feeding.turn
  have opens := LocalStore.connect_of_reachable turned.feeding.reachable
  exact ⟨_, after_eq opens, turned.of_same rfl ⟨rfl, rfl, rfl, rfl⟩⟩

theorem listLength_of_feeding (feeding : shared.Feeding inbox) :
    ∃ next, Store.listLength inbox shared = (.ok (next.store.queue inbox).length, next) ∧
      Follows inbox shared next := by
  refine ⟨(Store.listLength inbox shared).2, ?_, feeding.turn.of_same rfl ⟨rfl, rfl, rfl, rfl⟩⟩
  rw [LocalStore.length_queue]
  rfl

theorem popBatch_of_feeding (feeding : shared.Feeding inbox) {count : Nat}
    (room : count ≤ shared.store.room) :
    ∃ next, Store.popBatch inbox count shared =
      (.ok ((shared.turn.store.queue inbox).take count), next) ∧
      next.Feeding inbox ∧ next.others = shared.others.tail ∧
      next.store.queue inbox = (shared.turn.store.queue inbox).drop count := by
  have turned := feeding.turn
  have all : LocalStore.within shared.turn.store.popLimit count = count := by
    rw [turned.feeding.unlimited]
    rfl
  have taken : shared.turn.store.popBatch inbox count = _ :=
    LocalStore.popBatch_of_room (by rwa [all, turned.room])
  rw [all] at taken
  refine ⟨_, after_eq taken, ⟨turned.feeding.feeds, turned.feeding.reachable,
    turned.feeding.unlimited⟩, rfl, ?_⟩
  rw [LocalStore.queue_setList, if_pos rfl, List.reverse_reverse]

theorem release_of_feeding (feeding : shared.Feeding inbox) :
    Follows inbox shared (Store.release shared) :=
  feeding.turn.of_same rfl ⟨rfl, rfl, rfl, rfl⟩

/-- How many commands an import gives after it has asked how many records wait. -/
def furtherCommands (waiting : List String) : Nat := if waiting = [] then 1 else 2

theorem fetchInbox_of_feeding (feeding : shared.Feeding inbox) {waiting : List String}
    (waits : shared.turn.store.queue inbox = waiting) (room : waiting.length ≤ shared.store.room) :
    ∃ last, Peer.fetchInbox inbox shared = (.ok (waiting.length, waiting), last) ∧
      last.Feeding inbox ∧ last.others = shared.others.drop (furtherCommands waiting) ∧
      last.store.queue inbox =
        pushedBefore inbox (furtherCommands waiting - 1) (shared.others.drop 1) := by
  obtain ⟨asked, asks, asking⟩ := listLength_of_feeding feeding
  have left : asked.others = shared.others.drop 1 := asking.others.trans List.drop_one.symm
  rw [asking.queue.trans feeding.turn.queue.symm, waits] at asks
  have still : asked.store.queue inbox = waiting :=
    (asking.queue.trans feeding.turn.queue.symm).trans waits
  by_cases none : waiting = []
  · subst none
    refine ⟨asked, ?_, asking.feeding, left, still⟩
    rw [Peer.fetchInbox, asks]
    rfl
  · -- What is popped is what waited before the others pushed more.
    obtain ⟨popped, pops, popping, later, rest⟩ :=
      popBatch_of_feeding asking.feeding (asking.room ▸ room)
    rw [asking.feeding.turn.queue, still, List.take_left] at pops
    rw [asking.feeding.turn.queue, still, List.drop_left] at rest
    have further : furtherCommands waiting = 2 := if_neg none
    refine ⟨popped, Peer.fetchInbox_of_popped ?_ asks pops, popping, ?_, ?_⟩
    · exact fun zero => none (List.length_eq_zero_iff.mp zero)
    · rw [later, left, List.tail_drop, further]
    · rw [rest, left, further, pushedBefore_succ]
      exact (List.append_nil _).symm

/-- **An import gets all that waited when it asked**, whatever is pushed before it pops, and what is
pushed since then waits behind. -/
theorem popInbox_of_feeding (feeding : shared.Feeding inbox) {waiting : List String}
    (waits : shared.store.queue inbox ++ pushedBefore inbox 2 shared.others = waiting)
    (room : waiting.length ≤ shared.store.room) :
    (Store.listLength inbox (Store.connect shared).2).1 = .ok waiting.length ∧
      ∃ last, Peer.popInbox inbox shared = (.ok waiting, last) ∧
        last.others = shared.others.drop (2 + furtherCommands waiting) ∧
        last.store.queue inbox = pushedBefore inbox (furtherCommands waiting)
          (shared.others.drop 2) := by
  obtain ⟨opened, connects, opening⟩ := connect_of_feeding feeding
  have before : opened.turn.store.queue inbox = waiting := by
    rw [← waits, opening.feeding.turn.queue, opening.queue, opening.others, pushedBefore_succ,
      pushedBefore_succ, List.append_assoc]
    exact congrArg _ (congrArg _ (List.append_nil _).symm)
  obtain ⟨asked, asks, asking⟩ := listLength_of_feeding opening.feeding
  obtain ⟨popped, fetches, popping, later, rest⟩ := fetchInbox_of_feeding opening.feeding before
    (opening.room ▸ room)
  have released := release_of_feeding popping
  have counted : (asked.store.queue inbox).length = waiting.length :=
    congrArg List.length ((asking.queue.trans opening.feeding.turn.queue.symm).trans before)
  have counts : furtherCommands waiting - 1 + 1 = furtherCommands waiting := by
    rw [furtherCommands]
    split
    · rfl
    · rfl
  refine ⟨?_, Store.release popped, ?_, ?_, ?_⟩
  · rw [connects, asks, counted]
  · rw [Peer.popInbox, Store.overConnection, connects]
    dsimp only
    rw [fetches]
    exact if_pos rfl
  · rw [released.others, later, opening.others, List.tail_drop, List.drop_tail]
    exact congrArg (List.drop · _) (by omega)
  · rw [released.queue, rest, later, opening.others, List.drop_tail, ← counts, pushedBefore_snoc,
      List.drop_drop, List.drop_tail, counts]
    exact congrArg (fun skipped => _ ++ StoreCommand.pushedAll inbox
      ((shared.others.drop skipped).headD [])) (by omega)

end Shared

end ClauseSharing
