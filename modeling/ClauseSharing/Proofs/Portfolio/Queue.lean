import ClauseSharing.Observation.Scripted
import ClauseSharing.Proofs.Store.Shared

/-! # An inbox loses nothing

However commands over any connections are interleaved, and whatever limits are set in between, every
list is a queue: what is popped followed by what waits is what waited followed by what is pushed
(`Portfolio.conserves_run`). An import therefore gets its inbox in order, even where others push to
it while it works (`Peer.importInbox_of_feeding`). The two together are
`Portfolio.inbox_loses_nothing`. -/

namespace ClauseSharing

namespace StoreAction

/-- The command that is given in an action, with what came of it, if its connection was held. -/
def served? : StoreAction → Answer → Option (StoreCommand × Answer)
  | .over _ _, .noConnection => none
  | .over _ command, answer => some (command, answer)
  | _, _ => none

/-- Whether an action empties the store. -/
def Flushes : StoreAction → Prop
  | .over _ .flush => True
  | _ => False

theorem served?_of_ne (connection : String) (command : StoreCommand) {answer : Answer}
    (given : answer ≠ .noConnection) :
    served? (.over connection command) answer = some (command, answer) := by
  cases answer with
  | noConnection => exact absurd rfl given
  | _ => rfl

end StoreAction

theorem StoreCommand.answer_ne_noConnection {ω : Type} [Store ω]
    (command : StoreCommand) (world : ω) :
    (command.perform world).1 ≠ .noConnection := by
  have answered {α : Type} (tell : α → Answer) (told : ∀ value, tell value ≠ .noConnection)
      (outcome : Except StoreError α) : Answer.ofExcept .store tell outcome ≠ .noConnection := by
    cases outcome with
    | error reason => exact fun same => by cases same
    | ok value => exact told value
  cases command <;> exact answered _ (fun _ same => by cases same) _

namespace Portfolio

/-- Does one thing after another to the store. -/
def runStore (portfolio : Portfolio) (actions : List StoreAction) : List Answer × Portfolio :=
  portfolio.run (actions.map .store)

/-- All commands that are given over connections that are held, with what came of them. -/
def served (portfolio : Portfolio) (actions : List StoreAction) : List (StoreCommand × Answer) :=
  (actions.zip (portfolio.runStore actions).1).filterMap fun entry => entry.1.served? entry.2

variable {portfolio : Portfolio} {action : StoreAction}

theorem runStore_append (portfolio : Portfolio) (front rest : List StoreAction) :
    portfolio.runStore (front ++ rest) =
      ((portfolio.runStore front).1 ++ ((portfolio.runStore front).2.runStore rest).1,
        ((portfolio.runStore front).2.runStore rest).2) := by
  induction front generalizing portfolio with
  | nil => rfl
  | cons action front ih =>
    have step (actions : List StoreAction) (before : Portfolio) :
        before.runStore (action :: actions) =
          ((before.performStore action).1 :: ((before.performStore action).2.runStore actions).1,
            ((before.performStore action).2.runStore actions).2) := rfl
    rw [List.cons_append, step, ih, step, List.cons_append]

theorem length_runStore (portfolio : Portfolio) (actions : List StoreAction) :
    (portfolio.runStore actions).1.length = actions.length := by
  induction actions generalizing portfolio with
  | nil => rfl
  | cons action actions ih => exact congrArg Nat.succ (ih (portfolio.performStore action).2)

/-- What comes of an action stands in its place among the answers. -/
theorem answer_at (portfolio : Portfolio) (front : List StoreAction) (action : StoreAction)
    (back : List StoreAction) :
    (portfolio.runStore (front ++ action :: back)).1[front.length]? =
      some ((portfolio.runStore front).2.performStore action).1 := by
  rw [runStore_append, List.getElem?_append_right (Nat.le_of_eq (length_runStore ..)),
    length_runStore, Nat.sub_self]
  rfl

theorem performStore_of_held {connection : String}
    (held : portfolio.connections.contains connection = true) (command : StoreCommand) :
    portfolio.performStore (.over connection command) = ((command.perform portfolio.store).1,
      { portfolio with store := (command.perform portfolio.store).2 }) := by
  rw [performStore, if_pos held]

/-- Connecting, releasing and switching faults leave the lists as they are. -/
theorem queue_performStore (nothing : action.served? (portfolio.performStore action).1 = none)
    (name : String) :
    (portfolio.performStore action).2.store.queue name = portfolio.store.queue name := by
  match action with
  | .setUnreachable _ | .setReplyLimit _ | .setPopLimit _ => rfl
  | .connect connection =>
    have connected := portfolio.store.lists_connect
    rw [performStore]
    generalize portfolio.store.connect = answer at connected ⊢
    obtain ⟨outcome, store⟩ := answer
    cases outcome with
    | error reason => exact LocalStore.queue_of_lists connected
    | ok _ =>
      dsimp only
      split
      · exact LocalStore.queue_of_lists connected
      · exact LocalStore.queue_of_lists connected
  | .close connection =>
    rw [performStore]
    split
    · rfl
    · rfl
  | .over connection command =>
    by_cases held : portfolio.connections.contains connection = true
    · rw [performStore_of_held held,
        StoreAction.served?_of_ne _ _ (command.answer_ne_noConnection portfolio.store)] at nothing
      cases nothing
    · rw [performStore, if_neg held]

/-- **What one action does to a queue** is what the command in it does, if one is given. -/
theorem conserves_performStore (kept : ¬action.Flushes) (name : String) :
    let served := (action.served? (portfolio.performStore action).1).toList
    StoreCommand.poppedAll name served ++ (portfolio.performStore action).2.store.queue name =
      portfolio.store.queue name ++ StoreCommand.pushedAll name (served.map Prod.fst) := by
  cases given : action.served? (portfolio.performStore action).1 with
  | none => exact (queue_performStore given name).trans (List.append_nil _).symm
  | some entry =>
    match action, kept, given with
    | .over connection command, kept, given =>
      by_cases held : portfolio.connections.contains connection = true
      · rw [performStore_of_held held, StoreAction.served?_of_ne _ _
          (command.answer_ne_noConnection portfolio.store)] at given
        cases given
        have unflushed : command ≠ .flush := by
          rintro rfl
          exact kept trivial
        rw [performStore_of_held held]
        have step := StoreCommand.conserves unflushed name portfolio.store
        simp only [Option.toList_some, List.map_cons, List.map_nil, StoreCommand.poppedAll,
          StoreCommand.pushedAll, List.flatMap_cons, List.flatMap_nil, List.append_nil]
        exact step
      · rw [performStore, if_neg held] at given
        cases given

theorem served_cons (portfolio : Portfolio) (action : StoreAction) (actions : List StoreAction) :
    portfolio.served (action :: actions) =
      (action.served? (portfolio.performStore action).1).toList ++
        (portfolio.performStore action).2.served actions := by
  have first : portfolio.served (action :: actions) =
      ((action, (portfolio.performStore action).1) ::
        actions.zip ((portfolio.performStore action).2.runStore actions).1).filterMap
          fun entry => entry.1.served? entry.2 := rfl
  rw [first, List.filterMap_cons]
  cases action.served? (portfolio.performStore action).1 <;> rfl

/-- **A queue loses nothing over a run.** What is popped followed by what waits is what waited
followed by what is pushed. -/
theorem conserves_run (portfolio : Portfolio) {actions : List StoreAction}
    (kept : ∀ action ∈ actions, ¬action.Flushes) (name : String) :
    StoreCommand.poppedAll name (portfolio.served actions) ++
        (portfolio.runStore actions).2.store.queue name =
      portfolio.store.queue name ++
        StoreCommand.pushedAll name ((portfolio.served actions).map Prod.fst) := by
  induction actions generalizing portfolio with
  | nil => exact (List.append_nil _).symm
  | cons action actions ih =>
    obtain ⟨first, rest⟩ := List.forall_mem_cons.mp kept
    let given := (action.served? (portfolio.performStore action).1).toList
    let next := (portfolio.performStore action).2
    have step : StoreCommand.poppedAll name given ++ next.store.queue name = _ :=
      conserves_performStore first name
    rw [served_cons, StoreCommand.poppedAll_append, List.map_append, StoreCommand.pushedAll_append]
    calc
      _ = StoreCommand.poppedAll name given ++ (StoreCommand.poppedAll name (next.served actions) ++
          (next.runStore actions).2.store.queue name) := List.append_assoc ..
      _ = StoreCommand.poppedAll name given ++ next.store.queue name ++
          StoreCommand.pushedAll name ((next.served actions).map Prod.fst) := by
        rw [ih next rest, List.append_assoc]
      _ = _ := by rw [step, List.append_assoc]

end Portfolio

/-- An import to which others feed records takes what waited when it asked, and leaves behind what
they push after that. -/
theorem Peer.importInbox_of_feeding {κ η : Type} [Host η κ] (peer : Peer κ) (world : World Shared η)
    (level : Host.decisionLevel world.host = 0)
    (feeding : world.store.Feeding peer.config.store.inbox)
    {waiting : List String}
    (waits : world.store.store.queue peer.config.store.inbox ++
      Shared.pushedBefore peer.config.store.inbox 2 world.store.others = waiting)
    (room : waiting.length ≤ world.store.store.room) :
    ∃ last, peer.importInbox world = peer.integrateAll waiting ⟨last, world.host⟩ ∧
      (peer.importInbox world).2.2.store = last ∧
      last.others = world.store.others.drop (2 + Shared.furtherCommands waiting) ∧
      last.store.queue peer.config.store.inbox = Shared.pushedBefore peer.config.store.inbox
        (Shared.furtherCommands waiting) (world.store.others.drop 2) := by
  obtain ⟨-, last, popping, later, rest⟩ := Shared.popInbox_of_feeding feeding waits room
  have grounded : Host.decisionLevel world = 0 := level
  have reached : Peer.popInbox peer.config.store.inbox world = (.ok waiting, ⟨last, world.host⟩) :=
    World.popInbox_of_store popping
  have imports := peer.importInbox_of_popped grounded reached
  refine ⟨last, imports, ?_, later, rest⟩
  rw [imports]
  exact peer.integrateAll_keeps (World.keeps_store last) _ rfl

/-- **An inbox loses nothing.** Whatever commands are given over any connections, and whatever
limits are set in between, as long as the store is not emptied every list is a queue: what is popped
followed by what waits is what waited followed by what is pushed. Every pop for which there is room
returns the oldest records, as many as its count, the limit and the length allow, and a command on
one list touches nothing else. An import to which others push while it works takes what waited when
it asked for the length. It does not fail because of the store, and what is pushed later waits in
order. -/
theorem Portfolio.inbox_loses_nothing :
    (∀ (portfolio : Portfolio) (actions : List StoreAction),
      (∀ action ∈ actions, ¬action.Flushes) →
      (∀ name, let served := portfolio.served actions
        let last := (portfolio.runStore actions).2.store
        StoreCommand.poppedAll name served ++ last.queue name =
            portfolio.store.queue name ++ StoreCommand.pushedAll name (served.map Prod.fst) ∧
          (last.list name).length + (StoreCommand.poppedAll name served).length =
            (portfolio.store.list name).length +
              (StoreCommand.pushedAll name (served.map Prod.fst)).length) ∧
      ∀ front connection command back, actions = front ++ .over connection command :: back →
        let here := (portfolio.runStore front).2
        here.connections.contains connection = true →
        (portfolio.runStore actions).1[front.length]? = some (command.perform here.store).1 ∧
        (here.performStore (.over connection command)).2.store = (command.perform here.store).2 ∧
        command.ServesQueue here.store) ∧
    ∀ (κ η : Type) [Host η κ] (peer : Peer κ) (world : World Shared η),
      let inbox := peer.config.store.inbox
      let shared := world.store
      let waiting := shared.store.queue inbox ++ Shared.pushedBefore inbox 2 shared.others
      Host.decisionLevel world.host = 0 → shared.Feeding inbox →
      waiting.length ≤ shared.store.room →
      (Store.listLength inbox (Store.connect shared).2).1 = .ok waiting.length ∧
      (∀ reason, (peer.importInbox world).1 ≠ .error (.store reason)) ∧
      ∃ last, peer.importInbox world = peer.integrateAll waiting ⟨last, world.host⟩ ∧
        (peer.importInbox world).2.2.store = last ∧
        last.others = shared.others.drop (2 + Shared.furtherCommands waiting) ∧
        last.store.queue inbox = Shared.pushedBefore inbox (Shared.furtherCommands waiting)
          (shared.others.drop 2) := by
  refine ⟨fun portfolio actions kept => ⟨fun name => ?_, ?_⟩, ?_⟩
  · have conserved := portfolio.conserves_run kept name
    have lengths := congrArg List.length conserved
    simp only [List.length_append, LocalStore.length_queue] at lengths
    exact ⟨conserved, by omega⟩
  · rintro front connection command back rfl here held
    refine ⟨?_, ?_, command.servesQueue here.store⟩
    · rw [answer_at, performStore_of_held held]
    · rw [performStore_of_held held]
  · intro κ η _ peer world inbox shared waiting level feeding room
    obtain ⟨last, imports, left, later, rest⟩ :=
      peer.importInbox_of_feeding world level feeding rfl room
    refine ⟨(Shared.popInbox_of_feeding feeding rfl room).1, fun reason => ?_,
      last, imports, left, later, rest⟩
    rw [imports]
    exact peer.integrateAll_ne_store waiting _ reason

/-- Two connections fill and empty a list by turns, while a limit is set and lifted and a third one
is not held. -/
def crossing : List StoreAction :=
  [.connect "a", .connect "b", .over "a" (.push "list" ["1 0", "2 0"]), .setPopLimit (some 1),
    .over "b" (.popBatch "list" 5), .over "a" (.push "list" ["3 0"]),
    .over "c" (.push "list" ["4 0"]), .setPopLimit none, .over "b" (.popBatch "list" 1)]

/-- A store in which one record waits, and others push one before an import asks and one before it
pops. -/
def fed (inbox : String) : Shared where
  store := (LocalStore.push inbox ["1 0"] {}).2
  others := [[], [.push inbox ["2 0"]], [.push inbox ["3 0"], .writeBatch [("key", "4 0")]]]

theorem Portfolio.inbox_loses_nothing_crossing :
    (∀ action ∈ crossing, ¬action.Flushes) ∧
    StoreCommand.poppedAll "list" (({} : Portfolio).served crossing) = ["1 0", "2 0"] ∧
    StoreCommand.poppedAll "list" (({} : Portfolio).served crossing) ++
        (({} : Portfolio).runStore crossing).2.store.queue "list" =
      ({} : Portfolio).store.queue "list" ++
        StoreCommand.pushedAll "list" ((({} : Portfolio).served crossing).map Prod.fst) ∧
    ∃ (peer : Peer Nat) (last : Shared),
      (fed peer.config.store.inbox).Feeding peer.config.store.inbox ∧
      peer.importInbox (⟨fed peer.config.store.inbox, {}⟩ : World Shared ScriptedHost) =
        peer.integrateAll ["1 0", "2 0"] ⟨last, {}⟩ ∧
      last.store.queue peer.config.store.inbox = ["3 0"] := by
  have kept : ∀ action ∈ crossing, ¬action.Flushes := by
    simp only [crossing, List.forall_mem_cons, StoreAction.Flushes, not_false_eq_true, true_and]
    exact fun _ none => absurd none List.not_mem_nil
  obtain ⟨runs, imports⟩ := Portfolio.inbox_loses_nothing
  have conserved := ((runs {} crossing kept).1 "list").1
  let peer : Peer Nat := {}
  let inbox := peer.config.store.inbox
  have feeding : (fed inbox).Feeding inbox := by
    refine ⟨?_, rfl, rfl⟩
    simp only [fed, List.forall_mem_cons, StoreCommand.Feeds, true_and]
    exact ⟨fun _ none => absurd none List.not_mem_nil, fun _ none => absurd none List.not_mem_nil,
      fun _ none => absurd none List.not_mem_nil, fun _ none => absurd none List.not_mem_nil⟩
  have waiting : (fed inbox).store.queue inbox ++ Shared.pushedBefore inbox 2 (fed inbox).others =
      ["1 0", "2 0"] := by decide +kernel
  have read := imports Nat ScriptedHost peer ⟨fed inbox, {}⟩ rfl feeding
  dsimp only at read
  rw [waiting] at read
  obtain ⟨-, -, last, imported, -, -, rest⟩ := read (by decide)
  refine ⟨kept, by decide +kernel, conserved, peer, last, feeding, imported, ?_⟩
  rw [rest]
  decide +kernel

end ClauseSharing
