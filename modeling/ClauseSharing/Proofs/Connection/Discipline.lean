import ClauseSharing.Proofs.Connection.Visit

/-! # No connection is left open

A store in memory counts the connections that were opened and those that are held. Whatever its
faults, each request leaves as many held as before and opens at most one
(`LocalStore.visited_perform`), and so does a whole run of a portfolio in which no connection is
held open by name. Together with the visits of the requests this is the discipline of connections
(`Request.connection_discipline`). -/

namespace ClauseSharing

namespace LocalStore

/-- Whether no connection was opened or released. -/
structure Steady (before after : LocalStore) : Prop where
  held : after.use.held = before.use.held
  opened : after.use.opened = before.use.opened

/-- Whether at most one connection was opened, and none is held that was not held before. -/
structure Visited (before after : LocalStore) : Prop where
  held : after.use.held = before.use.held
  opened : after.use.opened ≤ before.use.opened + 1

variable {first second third : LocalStore}

theorem Steady.refl (store : LocalStore) : Steady store store := ⟨rfl, rfl⟩

theorem Steady.trans (one : Steady first second) (two : Steady second third) : Steady first third :=
  ⟨two.held.trans one.held, two.opened.trans one.opened⟩

theorem Steady.visited (steady : Steady first second) : Visited first second :=
  ⟨steady.held, Nat.le_succ_of_le (Nat.le_of_eq steady.opened)⟩

theorem steady_writeBatch (writes : List Write) (store : LocalStore) :
    Steady store (store.writeBatch writes).2 := by
  rw [writeBatch]
  dsimp only
  split
  · exact ⟨rfl, rfl⟩
  · exact ⟨rfl, rfl⟩

theorem steady_popBatch (name : String) (count : Nat) (store : LocalStore) :
    Steady store (store.popBatch name count).2 := by
  rw [popBatch]
  dsimp only
  split
  · exact ⟨rfl, rfl⟩
  · exact ⟨rfl, rfl⟩

section

variable {η κ α : Type}

/-- A world whose store is connected to, or not reached at all. -/
theorem connect_cases (world : World LocalStore η) :
    (∃ reason, Store.connect world = (.error reason, world)) ∨
    ∃ opened, Store.connect world = (.ok (), opened) ∧
      ∀ after : World LocalStore η, Steady opened.store after.store →
        Visited world.store (Store.release after).store := by
  by_cases unreachable : world.store.unreachable = true
  · have refused : world.store.connect = (.error (.connection refusal), world.store) :=
      if_pos unreachable
    refine .inl ⟨.connection refusal, ?_⟩
    change world.onStore connect = _
    rw [World.onStore, refused]
  · let use : StoreUse := { world.store.use with
      opened := world.store.use.opened + 1
      held := world.store.use.held + 1 }
    have reached : world.store.connect = (.ok (), { world.store with use }) := if_neg unreachable
    refine .inr ⟨{ world with store := { world.store with use } }, ?_, ?_⟩
    · change world.onStore connect = _
      rw [World.onStore, reached]
    · intro after steady
      refine ⟨?_, Nat.le_of_eq steady.opened⟩
      change after.store.use.held - 1 = world.store.use.held
      rw [steady.held]
      exact Nat.add_sub_cancel ..

theorem visited_overConnection
    {command : World LocalStore η → Except StoreError α × World LocalStore η}
    (steady : ∀ opened, Steady opened.store (command opened).2.store) (world : World LocalStore η) :
    Visited world.store (Store.overConnection command world).2.store := by
  rw [Store.overConnection]
  rcases connect_cases world with ⟨reason, refused⟩ | ⟨opened, connected, released⟩
  · rw [refused]
    exact (Steady.refl _).visited
  · rw [connected]
    exact released _ (steady opened)

theorem steady_fetchInbox (inbox : String) (world : World LocalStore η) :
    Steady world.store (Peer.fetchInbox inbox world).2.store :=
  Peer.fetchInbox_keeps (motive := fun next : World LocalStore η => Steady world.store next.store)
    (fun _ steady => ⟨steady.held, steady.opened⟩)
    (fun count next steady => steady.trans (steady_popBatch inbox count next.store))
    (Steady.refl world.store)

theorem visited_popInbox (inbox : String) (world : World LocalStore η) :
    Visited world.store (Peer.popInbox inbox world).2.store := by
  rw [Peer.popInbox_snd]
  exact visited_overConnection (steady_fetchInbox inbox) world

theorem visited_publish (peer : Peer κ) (source : κ → Option Clause) (world : World LocalStore η) :
    Visited world.store (peer.publish source world).2.2.store := by
  rw [Peer.publish]
  split
  · exact (Steady.refl _).visited
  · rcases connect_cases world with ⟨reason, refused⟩ | ⟨opened, connected, released⟩
    · rw [refused]
      exact (Steady.refl _).visited
    · have keeps : Publish.Sends (fun _ => True) (fun after => Steady opened.store after.store)
          fun after : World LocalStore η => Steady opened.store after.store :=
        .of_kept fun writes before _ steady => steady.trans (steady_writeBatch writes before.store)
      obtain ⟨-, sent⟩ := peer.publishQueued_sent source keeps (fun _ _ _ => trivial)
        (fun _ _ _ _ => trivial) (Steady.refl opened.store)
      rw [connected]
      exact released _ sent.holds

theorem visited_importInbox [Host η κ] (peer : Peer κ) (world : World LocalStore η) :
    Visited world.store (peer.importInbox world).2.2.store := by
  by_cases level : Host.decisionLevel world = 0
  · have visited := visited_popInbox peer.config.store.inbox world
    cases popping : Peer.popInbox peer.config.store.inbox world with
    | mk outcome popped =>
      rw [popping] at visited
      cases outcome with
      | error reason =>
        rw [peer.importInbox_of_unpopped level popping]
        exact visited
      | ok records =>
        rw [peer.importInbox_of_popped level popping,
          peer.integrateAll_keeps (World.keeps_store popped.store) records rfl]
        exact visited
  · rw [peer.importInbox_of_decided level]
    exact (Steady.refl _).visited

theorem visited_pushInbox (peer : Peer κ) (records : List String) (world : World LocalStore η) :
    Visited world.store (peer.pushInbox records world).2.store := by
  rw [Peer.pushInbox, Peer.raised_snd]
  exact visited_overConnection (fun _ => ⟨rfl, rfl⟩) world

/-- **Each request leaves as many connections held as before**, and opens at most one. -/
theorem visited_perform [Host η κ] (request : Request κ) (peer : Peer κ)
    (world : World LocalStore η) : Visited world.store (request.perform peer world).2.2.store := by
  cases request with
  | publish source => exact visited_publish peer source world
  | importInbox => exact visited_importInbox peer world
  | inboxLength =>
    rw [Request.perform, Peer.inboxLength, Peer.raised_snd]
    exact visited_overConnection (fun _ => ⟨rfl, rfl⟩) world
  | pushInbox records => exact visited_pushInbox peer records world
  | flushStore =>
    rw [Request.perform, Peer.flushStore, Peer.raised_snd]
    exact visited_overConnection (fun _ => ⟨rfl, rfl⟩) world

end

end LocalStore

namespace PortfolioAction

/-- Whether an action holds no connection open by a name, nor uses one. -/
def Bracketed : PortfolioAction → Prop
  | .solver _ _ | .peer _ _ => True
  | .store (.setUnreachable _) | .store (.setReplyLimit _) | .store (.setPopLimit _) => True
  | .store _ => False

/-- Whether an action is something that a peer is asked to do. -/
def isPeer : PortfolioAction → Bool
  | .peer _ _ => true
  | _ => false

end PortfolioAction

open LocalStore (Steady Visited)

theorem PeerAction.visited (action : PeerAction) (peer : Peer LearntKey)
    (world : World LocalStore Solver) :
    Visited world.store (action.perform peer world).2.2.store := by
  cases action with
  | queueUnit _ | queueClause _ => exact (Steady.refl _).visited
  | publish => exact LocalStore.visited_perform (.publish world.host.literals?) peer world
  | importInbox => exact LocalStore.visited_perform .importInbox peer world
  | inboxLength => exact LocalStore.visited_perform .inboxLength peer world
  | pushInbox records => exact LocalStore.visited_perform (.pushInbox records) peer world
  | flushStore => exact LocalStore.visited_perform .flushStore peer world
  | route stem => exact LocalStore.visited_pushInbox peer _ world

namespace Portfolio

theorem use_perform (portfolio : Portfolio) {action : PortfolioAction}
    (bracketed : action.Bracketed) :
    let after := (portfolio.perform action).2.store.use
    after.held = portfolio.store.use.held ∧
      after.opened ≤ portfolio.store.use.opened + if action.isPeer then 1 else 0 := by
  match action, bracketed with
  | .solver member action, _ =>
    rw [perform]
    cases portfolio.members[member]? <;> exact ⟨rfl, Nat.le_refl _⟩
  | .peer member action, _ =>
    rw [perform]
    cases portfolio.members[member]? with
    | none => exact ⟨rfl, Nat.le_add_right ..⟩
    | some current =>
      obtain ⟨held, opened⟩ := action.visited current.peer ⟨portfolio.store, current.solver⟩
      exact ⟨held, opened⟩
  | .store (.setUnreachable _), _ | .store (.setReplyLimit _), _ | .store (.setPopLimit _), _ =>
    exact ⟨rfl, Nat.le_refl _⟩

theorem use_run (portfolio : Portfolio) {actions : List PortfolioAction}
    (bracketed : ∀ action ∈ actions, action.Bracketed) :
    let after := (portfolio.run actions).2.store.use
    after.held = portfolio.store.use.held ∧
      after.opened ≤ portfolio.store.use.opened + actions.countP PortfolioAction.isPeer := by
  induction actions generalizing portfolio with
  | nil => exact ⟨rfl, Nat.le_refl _⟩
  | cons action actions ih =>
    obtain ⟨first, others⟩ := List.forall_mem_cons.mp bracketed
    obtain ⟨held, opened⟩ := portfolio.use_perform first
    obtain ⟨stillHeld, more⟩ := ih (portfolio.perform action).2 others
    refine ⟨stillHeld.trans held, ?_⟩
    change ((portfolio.perform action).2.run actions).2.store.use.opened ≤ _
    rw [List.countP_cons]
    omega

end Portfolio

/-- **The discipline of connections.** Whatever store and host there are and whatever they answer,
each request is a visit to the store, seen in a transcript that changes nothing about it. It makes
no call just if nothing waits to be published, or if an import finds the host above level zero. A
store in memory then has as many connections held after each action of a run as before, whatever its
faults, and each request opens at most one. -/
theorem Request.connection_discipline :
    (∀ (κ ω : Type) [Store ω] [Host ω κ] (request : Request κ) (peer : Peer κ)
        (before : Transcript κ ω),
      request.perform peer before.world =
        (request.perform peer before).map id (Prod.map id Transcript.world) ∧
      ∃ lines, (request.perform peer before).2.2.lines = before.lines ++ lines ∧
        request.Visit peer.config.store.inbox lines ∧
        (lines = [] ↔
          (∃ source, request = .publish source) ∧ peer.outbox.units = [] ∧
            peer.outbox.clauses = [] ∨
          request = .importInbox ∧ Host.decisionLevel before.world ≠ 0)) ∧
    (∀ (κ η : Type) [Host η κ] (request : Request κ) (peer : Peer κ) (world : World LocalStore η),
      Visited world.store (request.perform peer world).2.2.store) ∧
    ∀ (portfolio : Portfolio) (actions : List PortfolioAction),
      (∀ action ∈ actions, action.Bracketed) →
      (portfolio.run actions).2.store.use.held = portfolio.store.use.held ∧
      (portfolio.run actions).2.store.use.opened ≤
        portfolio.store.use.opened + actions.countP PortfolioAction.isPeer :=
  ⟨fun _ _ _ _ request peer before =>
      ⟨request.perform_forget peer before, request.perform_visit peer before⟩,
    fun _ _ _ request peer world => LocalStore.visited_perform request peer world,
    fun portfolio _ bracketed => portfolio.use_run bracketed⟩

/-- A member that knows nothing, and an empty store. -/
def lonely (config : Config) : Portfolio where
  members := #[.starting "only" config 0]

/-- The member publishes a unit in vain while the store cannot be reached, then publishes it, and
then looks into the inbox. -/
def persistent : List PortfolioAction :=
  [.peer 0 (.queueUnit ⟨0, true⟩), .store (.setUnreachable true), .peer 0 .publish,
    .store (.setUnreachable false), .peer 0 .publish, .peer 0 .importInbox]

theorem Request.connection_discipline_persistent : ∃ config : Config,
    (∀ action ∈ persistent, action.Bracketed) ∧
    ((lonely config).run persistent).2.store.use.held = 0 ∧
    ((lonely config).run persistent).2.store.use.opened = 2 ∧
    ((lonely config).run persistent).2.store.use.opened ≤ 0 + 4 := by
  have bracketed : ∀ action ∈ persistent, action.Bracketed := by
    simp only [persistent, List.forall_mem_cons, PortfolioAction.Bracketed, true_and]
    exact fun _ none => absurd none List.not_mem_nil
  obtain ⟨held, opened⟩ := connection_discipline.2.2 (lonely {}) persistent bracketed
  exact ⟨{}, bracketed, held, by decide +kernel, opened⟩

end ClauseSharing
