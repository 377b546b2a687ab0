import ClauseSharing.Proofs.Redis.Client
import ClauseSharing.Proofs.Store.Queue

/-! # A server and a store in memory agree

A client over a server and a store in memory are two stores of their own. Where they hold the same,
every command has the same answer from both and leaves both with the same (`Redis.Mirrors.step`),
and so it is over any sequence of commands (`Redis.Mirrors.performAll`). There is one exception: a
store in memory makes room for as many records as a pop may return before it looks how many there
are, and fails where there is no such room, while a server returns those that there are
(`Redis.Mirrors.popBatch_of_oversized`). How much room there is depends on what memory can be had,
so all of this is said of a store with any room. -/

namespace ClauseSharing

namespace StoreCommand

/-- What a client sends for a command: each write of a batch on its own, and one command for any
other. -/
def wire : StoreCommand → List Redis.Command
  | writeBatch writes => Redis.Link.sets writes
  | listLength name => [.llen name]
  | popBatch name count => [.rpop name count]
  | push name records => [.lpush name records]
  | flush => [.flushdb]

/-- Whether a server takes a command: a push brings some record, and a pop has a count that a server
reads. -/
def Accepted : StoreCommand → Prop
  | push _ records => records ≠ []
  | popBatch _ count => count ≤ Redis.Server.greatestCount
  | _ => True

instance : DecidablePred Accepted
  | push _ records => inferInstanceAs (Decidable (records ≠ []))
  | popBatch _ count => inferInstanceAs (Decidable (count ≤ Redis.Server.greatestCount))
  | writeBatch _ | listLength _ | flush => isTrue trivial

/-- Whether there is room for all that a command may pop. -/
def Roomy (room : Nat) : StoreCommand → Prop
  | popBatch _ count => count ≤ room
  | _ => True

instance (room : Nat) : DecidablePred (Roomy room)
  | popBatch _ count => inferInstanceAs (Decidable (count ≤ room))
  | writeBatch _ | listLength _ | push _ _ | flush => isTrue trivial

/-- What a command puts in any list. -/
def records : StoreCommand → List String
  | push _ records => records
  | _ => []

/-- No list grows by more than what is pushed. -/
theorem length_list_perform_le (command : StoreCommand) (store : LocalStore) (name : String) :
    ((command.perform store).2.list name).length ≤
      (store.list name).length + command.records.length := by
  by_cases flushes : command = flush
  · subst flushes
    have emptied : (perform store flush).2.list name = [] := Std.ExtTreeMap.getD_empty
    rw [emptied]
    exact Nat.zero_le _
  · have conserved := congrArg List.length (conserves flushes name store)
    have fewer : (command.pushed name).length ≤ command.records.length := by
      cases command with
      | push other records =>
        rw [pushed]
        split
        · exact Nat.le_refl _
        · exact Nat.zero_le _
      | _ => exact Nat.le_refl _
    simp only [List.length_append, LocalStore.length_queue] at conserved
    omega

end StoreCommand

theorem LocalStore.Faultless.of_same {store next : LocalStore} (faultless : store.Faultless)
    (same : next.SameFaults store) : next.Faultless :=
  ⟨same.unreachable.trans faultless.reachable, same.replyLimit.trans faultless.replies,
    same.popLimit.trans faultless.pops⟩

namespace Redis

/-- Whether a link to a server and a store in memory hold the same, and nothing stands in the way of
either. -/
structure Mirrors (link : Link) (store : LocalStore) : Prop where
  plain : link.Plain
  faultless : store.Faultless
  values : link.server.values = store.values
  lists : link.server.lists = store.lists
  /-- A list without records is absent. -/
  filled : ∀ name : String, store.lists[name]? ≠ some []

theorem filled_empty (name : String) :
    (∅ : Std.ExtTreeMap String (List String))[name]? ≠ some [] := by
  rw [Std.ExtTreeMap.getElem?_empty]
  exact fun same => by cases same

theorem filled_setList {store : LocalStore} (filled : ∀ name : String, store.lists[name]? ≠ some [])
    (name : String) (records : List String) (other : String) :
    (store.setList name records).lists[other]? ≠ some [] := by
  rw [LocalStore.setList]
  dsimp only
  split
  · rw [Std.ExtTreeMap.getElem?_erase]
    split
    · exact fun same => by cases same
    · exact filled other
  · rename_i some
    rw [Std.ExtTreeMap.getElem?_insert]
    split
    · intro same
      cases same
      exact some rfl
    · exact filled other

/-- A pop takes records from a list as a whole, also where the list is absent and stays so. -/
theorem Server.lists_pop {server : Server} {name : String} {count : Nat}
    (filled : server.lists[name]? ≠ some []) (accepted : count ≤ greatestCount) :
    (server.pop name count).2.lists =
      (server.setList name ((server.list name).reverse.drop count).reverse).lists := by
  have within : ¬greatestCount < count := Nat.not_lt_of_le accepted
  rw [pop, if_neg within]
  by_cases empty : server.list name = []
  · have absent : server.lists[name]? = none := by
      rw [list, Std.ExtTreeMap.getD_eq_getD_getElem?] at empty
      cases found : server.lists[name]? with
      | none => rfl
      | some records =>
        rw [found] at empty
        exact absurd (found.trans (congrArg some empty)) filled
    have erased : server.lists = server.lists.erase name := by
      apply Std.ExtTreeMap.ext_getElem?
      intro other
      rw [Std.ExtTreeMap.getElem?_erase]
      split
      · rename_i same
        rwa [← Std.LawfulEqOrd.eq_of_compare same]
      · rfl
    rw [empty, List.reverse_nil, List.drop_nil]
    exact erased
  · have waiting : ¬(server.list name).reverse.isEmpty = true := by
      rwa [List.isEmpty_iff, List.reverse_eq_nil_iff]
    dsimp only
    rw [if_neg waiting]

theorem Server.values_pop (server : Server) (name : String) (count : Nat) :
    (server.pop name count).2.values = server.values := by
  rw [pop]
  split
  · rfl
  · dsimp only
    split
    · rfl
    · rfl

namespace Mirrors

variable {link : Link} {store : LocalStore}

theorem list_eq (mirrors : Mirrors link store) (name : String) :
    link.server.list name = store.list name := by
  rw [Server.list, mirrors.lists]
  rfl

/-- What holds the same holds the same with the same records in a list. -/
theorem setList (mirrors : Mirrors link store) (name : String) (records : List String)
    (server : Server) (values : server.values = store.values)
    (lists : server.lists = (link.server.setList name records).lists) (commands : List Command)
    (use : StoreUse) :
    Mirrors (link.after server commands) ({ store with use }.setList name records) where
  plain := mirrors.plain.after server commands
  faultless := mirrors.faultless.of_same ⟨rfl, rfl, rfl, rfl⟩
  values := values
  lists := by
    change server.lists = _
    rw [lists, Server.setList, mirrors.lists]
    rfl
  filled := filled_setList mirrors.filled name records

theorem within_eq (mirrors : Mirrors link store) (count : Nat) :
    LocalStore.within store.popLimit count = count := by
  rw [mirrors.faultless.pops]
  rfl

/-- **Every command has the same answer**, is sent as it should be, and leaves the same, as long as
there is room for what is popped and lists can be counted. -/
theorem step (mirrors : Mirrors link store) {command : StoreCommand} (accepted : command.Accepted)
    (roomy : command.Roomy store.room)
    (counted : ∀ name, (store.list name).length + command.records.length < 18446744073709551616) :
    ∃ server, command.perform link = ((command.perform store).1, link.after server command.wire) ∧
      Mirrors (link.after server command.wire) (command.perform store).2 := by
  have faultless := mirrors.faultless.of_same (command.sameFaults_perform store)
  cases command with
  | writeBatch writes =>
    have written := Link.writeBatch_of_plain mirrors.plain writes
    have received : LocalStore.within store.replyLimit writes.length = writes.length := by
      rw [mirrors.faultless.replies]
      rfl
    have near : Store.writeBatch writes store = (.ok (), _) := if_pos received
    rw [StoreCommand.perform, written, StoreCommand.perform, near, mirrors.values]
    rw [StoreCommand.perform, near] at faultless
    exact ⟨_, rfl, mirrors.plain.after _ _, faultless, rfl, mirrors.lists, mirrors.filled⟩
  | listLength name =>
    have same := mirrors.list_eq name
    have bounded := counted name
    have asked := Link.listLength_of_plain mirrors.plain name (by rw [same]; exact bounded)
    rw [same] at asked
    rw [StoreCommand.perform, asked]
    exact ⟨link.server, rfl, mirrors.plain.after _ _, faultless, mirrors.values,
      mirrors.lists, mirrors.filled⟩
  | popBatch name count =>
    have popped := Link.popBatch_of_plain mirrors.plain name accepted
    have room : LocalStore.within store.popLimit count ≤ store.room := by
      rw [mirrors.within_eq]
      exact roomy
    have near : Store.popBatch name count store = _ := LocalStore.popBatch_of_room room
    rw [mirrors.within_eq] at near
    rw [mirrors.list_eq] at popped
    rw [StoreCommand.perform, popped, StoreCommand.perform, near]
    have filled : link.server.lists[name]? ≠ some [] := by
      rw [mirrors.lists]
      exact mirrors.filled name
    have lists := Server.lists_pop filled accepted
    rw [mirrors.list_eq] at lists
    exact ⟨_, rfl, mirrors.setList name _ _ ((Server.values_pop ..).trans mirrors.values) lists _ _⟩
  | push name records =>
    have same := mirrors.list_eq name
    have bounded : (records.reverse ++ link.server.list name).length < 18446744073709551616 := by
      have total := counted name
      rw [List.length_append, List.length_reverse, same]
      change _ + records.length < _ at total
      omega
    have pushed := Link.push_of_plain mirrors.plain name accepted bounded
    rw [same] at pushed
    rw [StoreCommand.perform, pushed]
    let list := records.reverse ++ store.list name
    exact ⟨_, rfl, mirrors.setList name list (link.server.setList name list)
      mirrors.values rfl _ store.use⟩
  | flush =>
    have flushed := Link.flush_of_plain mirrors.plain
    rw [StoreCommand.perform, flushed]
    exact ⟨{}, rfl, mirrors.plain.after _ _, faultless, rfl, rfl, filled_empty⟩

/-- **Any commands have the same answers**, are sent as they should be, and leave the same. -/
theorem performAll (mirrors : Mirrors link store) {commands : List StoreCommand}
    (accepted : ∀ command ∈ commands, command.Accepted)
    (roomy : ∀ command ∈ commands, command.Roomy store.room)
    (counted : ∀ name, (store.list name).length + (commands.flatMap StoreCommand.records).length <
      18446744073709551616) :
    ∃ server, StoreCommand.performAll link commands =
        ((StoreCommand.performAll store commands).1,
          link.after server (commands.flatMap StoreCommand.wire)) ∧
      Mirrors (link.after server (commands.flatMap StoreCommand.wire))
        (StoreCommand.performAll store commands).2 := by
  induction commands generalizing link store with
  | nil =>
    have still : link.after link.server [] = link :=
      congrArg (fun sent => ({ link with sent } : Link)) Array.append_empty
    exact ⟨link.server, congrArg (Prod.mk _) still.symm, still ▸ mirrors⟩
  | cons command commands ih =>
    obtain ⟨first, others⟩ := List.forall_mem_cons.mp accepted
    obtain ⟨room, rooms⟩ := List.forall_mem_cons.mp roomy
    have now (name : String) :
        (store.list name).length + command.records.length < 18446744073709551616 := by
      have total := counted name
      rw [List.flatMap_cons, List.length_append] at total
      omega
    have later (name : String) : ((command.perform store).2.list name).length +
        (commands.flatMap StoreCommand.records).length < 18446744073709551616 := by
      have total := counted name
      have grown := command.length_list_perform_le store name
      rw [List.flatMap_cons, List.length_append] at total
      omega
    obtain ⟨server, performs, mirrored⟩ := mirrors.step first room now
    rw [← (command.sameFaults_perform store).room] at rooms
    obtain ⟨last, rest, mirroring⟩ := ih mirrored others rooms later
    have both : (link.after server command.wire).after last (commands.flatMap StoreCommand.wire) =
        link.after last ((command :: commands).flatMap StoreCommand.wire) := by
      rw [Link.after, Link.after, Link.after, List.flatMap_cons, ← List.append_toArray,
        ← Array.append_assoc]
    rw [both] at rest mirroring
    refine ⟨last, ?_, mirroring⟩
    rw [StoreCommand.performAll, performs]
    dsimp only
    rw [rest]
    rfl

/-- A pop with a count for which there is no room returns the records that there are from a server,
but fails in memory, where all of them are left. -/
theorem popBatch_of_oversized (mirrors : Mirrors link store) (name : String) {count : Nat}
    (oversized : store.room < count) (accepted : count ≤ Server.greatestCount) :
    ((StoreCommand.popBatch name count).perform link).1 = .records ((store.queue name).take count) ∧
      ((StoreCommand.popBatch name count).perform store).1 = .failed
        (.store (.oversizedPop count)) ∧
      ((StoreCommand.popBatch name count).perform store).2.queue name = store.queue name := by
  have popped := Link.popBatch_of_plain mirrors.plain name accepted
  rw [mirrors.list_eq] at popped
  have crowded : store.room < LocalStore.within store.popLimit count := by
    rwa [mirrors.within_eq]
  have near : Store.popBatch name count store = _ := LocalStore.popBatch_of_oversized crowded
  rw [mirrors.within_eq] at near
  rw [StoreCommand.perform, popped, StoreCommand.perform, near]
  exact ⟨rfl, rfl, rfl⟩

end Mirrors

/-- An empty server and an empty store in memory, connected to and without faults, hold the same. -/
theorem mirrors_connect {link : Link} (reachable : link.refusal = none) (script : link.script = [])
    (fresh : link.server = {}) {store : LocalStore} (faultless : store.Faultless)
    (valueless : store.values = ∅) (listless : store.lists = ∅) :
    Mirrors (Store.connect link).2 (Store.connect store).2 := by
  obtain ⟨connected, connects, still, values, lists, -⟩ := LocalStore.connect_of_faultless faultless
  rw [Link.connect_of_reachable reachable, connects]
  refine ⟨⟨script, rfl⟩, still, (congrArg Server.values fresh).trans (values.trans valueless).symm,
    (congrArg Server.lists fresh).trans (lists.trans listless).symm, fun name => ?_⟩
  rw [lists, listless]
  exact filled_empty name

open StoreCommand in
/-- **A server and a store in memory agree.** Given any commands that a server takes, a client that
is connected to an empty server and an empty store in memory without faults, whatever room it has,
answer each in the same way, as long as no pop asks for more than there is room for, and after each
of them they hold the same values and the same lists. The client sends each write of a batch in
order and one command for any other. Where there is no room for as many records as a pop asks for,
the client returns those that there are, and the store in memory fails and keeps them. -/
theorem agreement {link : Link} (reachable : link.refusal = none) (script : link.script = [])
    (fresh : link.server = {}) {store : LocalStore} (faultless : store.Faultless)
    (valueless : store.values = ∅) (listless : store.lists = ∅) {commands : List StoreCommand}
    (accepted : ∀ command ∈ commands, command.Accepted)
    (counted : (commands.flatMap StoreCommand.records).length < 18446744073709551616) :
    let distant := StoreCommand.performAll (Store.connect link).2
    let near := StoreCommand.performAll (Store.connect store).2
    ((∀ command ∈ commands, command.Roomy store.room) →
      (distant commands).1 = (near commands).1 ∧
      ∀ front, front <+: commands →
        (distant front).2.server.values = (near front).2.values ∧
        (distant front).2.server.lists = (near front).2.lists ∧
        (∀ name : String, (near front).2.lists[name]? ≠ some []) ∧
        (distant front).2.sent = link.sent ++ (front.flatMap StoreCommand.wire).toArray) ∧
    ∀ front name count, front ++ [.popBatch name count] <+: commands →
      (∀ command ∈ front, command.Roomy store.room) → store.room < count →
      ((popBatch name count).perform (distant front).2).1 =
          .records (((near front).2.queue name).take count) ∧
        ((popBatch name count).perform (near front).2).1 = .failed (.store (.oversizedPop count)) ∧
        ((popBatch name count).perform (near front).2).2.queue name =
          (near front).2.queue name := by
  intro distant near
  have start := mirrors_connect reachable script fresh faultless valueless listless
  obtain ⟨connected, connects, -, -, lists, room⟩ := LocalStore.connect_of_faultless faultless
  have sent : (Store.connect link).2.sent = link.sent := by
    change link.connect.2.sent = _
    rw [Link.connect, reachable]
  have reached {front : List StoreCommand} (isPrefix : front <+: commands)
      (roomy : ∀ command ∈ front, command.Roomy store.room) :
      ∃ server, distant front = ((near front).1,
          (Store.connect link).2.after server (front.flatMap StoreCommand.wire)) ∧
        Mirrors ((Store.connect link).2.after server (front.flatMap StoreCommand.wire))
          (near front).2 := by
    have roomier : ∀ command ∈ front, command.Roomy (Store.connect store).2.room := by
      rwa [connects, room]
    refine start.performAll (fun command inside =>
      accepted command (isPrefix.subset inside)) roomier ?_
    intro name
    have empty : (Store.connect store).2.list name = [] := by
      rw [connects, LocalStore.list, lists, listless]
      exact Std.ExtTreeMap.getD_empty
    have fewer : (front.flatMap StoreCommand.records).length ≤
        (commands.flatMap StoreCommand.records).length := by
      obtain ⟨rest, rfl⟩ := isPrefix
      rw [List.flatMap_append, List.length_append]
      exact Nat.le_add_right ..
    rw [empty, List.length_nil, Nat.zero_add]
    exact Nat.lt_of_le_of_lt fewer counted
  refine ⟨fun roomy => ⟨?_, fun front isPrefix => ?_⟩,
    fun front name count isPrefix roomy oversized => ?_⟩
  · obtain ⟨server, same, -⟩ := reached (List.prefix_refl commands) roomy
    rw [same]
  · obtain ⟨server, same, mirrors⟩ :=
      reached isPrefix fun command inside => roomy command (isPrefix.subset inside)
    rw [same]
    exact ⟨mirrors.values, mirrors.lists, mirrors.filled, congrArg (· ++ _) sent⟩
  · obtain ⟨server, same, mirrors⟩ := reached ((List.prefix_append ..).trans isPrefix) roomy
    rw [same]
    have crowded : (near front).2.room < count := by
      rw [(StoreCommand.sameFaults_performAll front (Store.connect store).2).room, connects, room]
      exact oversized
    exact mirrors.popBatch_of_oversized name crowded
      (accepted _ (isPrefix.subset (List.mem_append_right _ (List.mem_singleton_self _))))

/-- A key is written twice in one batch, and of three records one is left. -/
def chores : List StoreCommand :=
  [.writeBatch [("kept", "first"), ("kept", "last")], .push "inbox" ["1 0", "2 0", "3 0"],
    .popBatch "inbox" 2, .listLength "inbox", .popBatch "outbox" 1]

/-- A store in memory that has room for no more records than are popped at once. -/
def narrow : LocalStore where
  room := 2
  room_le := Nat.le_of_ble_eq_true rfl

theorem agreement_chores :
    (StoreCommand.performAll (Store.connect ({} : Link)).2 chores).1 =
        [.done, .number 3, .records ["1 0", "2 0"], .number 1, .records []] ∧
      (StoreCommand.performAll (Store.connect narrow).2 chores).1 =
        [.done, .number 3, .records ["1 0", "2 0"], .number 1, .records []] ∧
      (StoreCommand.performAll (Store.connect ({} : Link)).2 chores).2.server.values.toList =
        [("kept", "last")] ∧
      (StoreCommand.performAll (Store.connect ({} : Link)).2 chores).2.sent =
        #[.set "kept" "first", .set "kept" "last",
          .lpush "inbox" ["1 0", "2 0", "3 0"], .rpop "inbox" 2, .llen "inbox",
            .rpop "outbox" 1] := by
  have accepted : ∀ command ∈ chores, command.Accepted := by decide
  have faultless : narrow.Faultless := ⟨rfl, rfl, rfl⟩
  have roomy : ∀ command ∈ chores, command.Roomy narrow.room := by decide
  have near : (StoreCommand.performAll (Store.connect narrow).2 chores).1 =
      [.done, .number 3, .records ["1 0", "2 0"], .number 1, .records []] := rfl
  have kept : (StoreCommand.performAll (Store.connect narrow).2 chores).2.values.toList =
      [("kept", "last")] := by decide +kernel
  obtain ⟨same, during⟩ :=
    (agreement (rfl : ({} : Link).refusal = none) rfl rfl faultless rfl rfl accepted
      (by decide)).1 roomy
  obtain ⟨values, -, -, sent⟩ := during chores (List.prefix_refl chores)
  exact ⟨same.trans near, near, (congrArg Std.ExtTreeMap.toList values).trans kept, sent⟩

/-- All records that wait are asked for at once, by the greatest count that a server reads. -/
def greedy : List StoreCommand :=
  [.push "inbox" ["1 0"], .popBatch "inbox" 9223372036854775807]

/-- Without room for what is popped the two do not agree: a server returns the one record that
waits, and the store in memory fails. -/
theorem not_agreement :
    ¬∀ commands : List StoreCommand, (∀ command ∈ commands, command.Accepted) →
      (commands.flatMap StoreCommand.records).length < 18446744073709551616 →
      (StoreCommand.performAll (Store.connect ({} : Link)).2 commands).1 =
        (StoreCommand.performAll (Store.connect ({} : LocalStore)).2 commands).1 := by
  intro agree
  have pushes : (StoreCommand.push "inbox" ["1 0"]).Accepted := by decide
  have counted (name : String) :
      ((Store.connect ({} : LocalStore)).2.list name).length + 1 < 18446744073709551616 := by
    have empty : (Store.connect ({} : LocalStore)).2.list name = [] := Std.ExtTreeMap.getD_empty
    rw [empty]
    decide
  have start : Mirrors (Store.connect ({} : Link)).2 (Store.connect ({} : LocalStore)).2 :=
    mirrors_connect rfl rfl rfl ⟨rfl, rfl, rfl⟩ rfl rfl
  obtain ⟨server, pushed, mirrors⟩ := start.step pushes trivial counted
  have oversized : LocalStore.greatestPop < 9223372036854775807 := by decide
  obtain ⟨returned, failed, -⟩ :=
    mirrors.popBatch_of_oversized "inbox" oversized (Nat.le_refl Server.greatestCount)
  have same := agree greedy (by decide) (by decide)
  simp only [greedy, StoreCommand.performAll, pushed, returned, failed] at same
  cases same

end Redis

end ClauseSharing
