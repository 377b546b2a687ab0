import ClauseSharing.Proofs.Connection.Discipline
import ClauseSharing.Proofs.Portfolio.Keys
import ClauseSharing.Proofs.Store.Part

/-! # What a member does on its own

A member acts on its own if it works its solver or its peer without emptying the store and without
reading what others published. Such an action does to a shared store what it does to the part of it
that the member has (`MemberAction.perform_eq_ownPart`), and leaves of it a part that is the
member's (`MemberAction.partOf`). -/

namespace ClauseSharing

namespace PeerAction

/-- Whether an action uses nothing of the store but the keys of one's own records and one's own
inbox. -/
def Own : PeerAction → Prop
  | flushStore | route _ => False
  | _ => True

variable {peer : Peer LearntKey} {action : PeerAction}

/-- **What the commands on an inbox keep, every action of one's own keeps.** -/
theorem keeps {holds : LocalStore → Prop} (keeps : Store.KeepsAt peer.config.store.inbox holds)
    (own : action.Own) (world : World LocalStore Solver) (before : holds world.store) :
    holds (action.perform peer world).2.2.store := by
  let holdsBeside : World LocalStore Solver → Prop := fun world => holds world.store
  have beside : Store.KeepsAt peer.config.store.inbox holdsBeside :=
    ⟨fun world => keeps.connect world.store, fun world => keeps.release world.store,
      fun writes world => keeps.writeBatch writes world.store,
      fun world => keeps.listLength world.store,
      fun count world => keeps.popBatch count world.store,
      fun records world => keeps.push records world.store⟩
  match action, own with
  | queueUnit _, _ | queueClause _, _ => exact before
  | publish, _ =>
    have writes : Publish.Keeps (fun _ => True) holdsBeside :=
      ⟨beside.connect, beside.release, fun pairs world _ => beside.writeBatch pairs world⟩
    exact (Peer.publish_keeps writes (fun _ _ _ => trivial) (fun _ _ _ _ => trivial) before).2
  | importInbox, _ =>
    have popped : holds (Peer.popInbox peer.config.store.inbox world.store).2 := by
      rw [Peer.popInbox_snd]
      exact keeps.overConnection
        (fun _ => Peer.fetchInbox_keeps keeps.listLength keeps.popBatch) before
    change holds (peer.importInbox world).2.2.store
    rcases peer.importInbox_cases world with
      ⟨reason, decided⟩ | ⟨reason, store, popping, unpopped⟩ | ⟨records, store, -, popping, outcome,
        report, tally, last, imported, same, -⟩
    · rw [decided]
      exact before
    · rw [popping] at popped
      rw [unpopped]
      exact popped
    · rw [popping] at popped
      rw [imported]
      dsimp only
      rw [same]
      exact popped
  | inboxLength, _ =>
    change holdsBeside (Peer.raised (Store.overConnection _ world)).2
    rw [Peer.raised_snd]
    exact beside.overConnection beside.listLength before
  | pushInbox records, _ =>
    change holdsBeside (Peer.raised (Store.overConnection _ world)).2
    rw [Peer.raised_snd]
    exact beside.overConnection (beside.push records) before

/-- **An action of one's own is seen as that action** wherever the commands on one's inbox are seen
as they are. -/
theorem perform_view {view : LocalStore → LocalStore}
    (respects : Store.RespectsAt peer.config.store.inbox view) (own : action.Own)
    (world : World LocalStore Solver) :
    action.perform peer (world.mapStore view) =
      (action.perform peer world).map id (Prod.map id (World.mapStore view)) := by
  have beside : Store.RespectsAt peer.config.store.inbox
      (World.mapStore view : World LocalStore Solver → World LocalStore Solver) :=
    World.respectsAt_mapStore respects
  match action, own with
  | queueUnit _, _ | queueClause _, _ => rfl
  | publish, _ =>
    rw [perform, peer.publish_view beside]
    rfl
  | importInbox, _ =>
    rw [perform, peer.importInbox_view beside (World.hostRespects_mapStore view)]
    rfl
  | inboxLength, _ =>
    rw [perform, peer.inboxLength_view beside]
    rfl
  | pushInbox records, _ =>
    rw [perform, peer.pushInbox_view beside]
    rfl

end PeerAction

/-- What a member does. -/
inductive MemberAction where
  | solver (action : SolverAction)
  | peer (action : PeerAction)

namespace MemberAction

/-- Whether an action uses nothing of the store but the keys of one's own records and one's own
inbox. -/
def Own : MemberAction → Prop
  | solver _ => True
  | peer action => action.Own

/-- The action as it happens in a portfolio, where the member has a number. -/
def toPortfolio (place : Nat) : MemberAction → PortfolioAction
  | solver action => .solver place action
  | peer action => .peer place action

/-- Does what a member does, and returns the member and the store after it. -/
def perform (member : Member) (store : LocalStore) : MemberAction → Answer × Member × LocalStore
  | solver action =>
    let (answer, next) := action.perform member.solver
    (answer, { member with solver := next }, store)
  | peer action =>
    let (answer, next, world) := action.perform member.peer ⟨store, member.solver⟩
    (answer, { member with peer := next, solver := world.host }, world.store)

variable {member : Member} {action : MemberAction}

/-- What an action of one's own does to a store is what it does to one's own part of it. -/
theorem perform_eq_ownPart (own : action.Own) (member : Member) (store : LocalStore) :
    let inbox := member.peer.config.store.inbox
    action.perform member store =
      (action.perform member (store.ownPart inbox)).map id
        (Prod.map id (store.withPart inbox)) := by
  intro inbox
  have whole : store.withPart inbox (store.ownPart inbox) = store := store.withPart_ownPart inbox
  cases action with
  | solver action => exact Prod.ext rfl (Prod.ext rfl whole.symm)
  | peer action =>
    have seen := action.perform_view (store.respectsAt_withPart inbox) own
      ⟨store.ownPart inbox, member.solver⟩
    rw [World.mapStore, whole] at seen
    rw [perform, seen]
    rfl

/-- What an action of one's own leaves of one's part of a store is one's own. -/
theorem partOf (own : action.Own) (member : Member) (store : LocalStore) :
    LocalStore.PartOf member.peer.config.store store
      (action.perform member (store.ownPart member.peer.config.store.inbox)).2.2 := by
  let part := store.ownPart member.peer.config.store.inbox
  have nothing (key : String) : part.values[key]? = none := Std.ExtTreeMap.getElem?_empty
  cases action with
  | solver action =>
    exact ⟨⟨rfl, rfl, rfl, rfl⟩, rfl, fun key present => absurd (nothing key) present⟩
  | peer action =>
    refine ⟨?_, (action.visited member.peer ⟨part, member.solver⟩).held, ?_⟩
    · exact PeerAction.keeps (LocalStore.keepsAt_sameFaults _ store) own ⟨part, member.solver⟩
        ⟨rfl, rfl, rfl, rfl⟩
    · intro key present
      have quiet : action ≠ .flushStore := by
        rintro rfl
        exact own
      have values : (action.perform member.peer ⟨part, member.solver⟩).2.2.store.values = _ :=
        PeerAction.values_perform quiet
      obtain ⟨identifiers, keys, -⟩ := (action.advances member.peer ⟨part, member.solver⟩).rising
      obtain ⟨record, found⟩ := Option.ne_none_iff_exists'.mp present
      change (action.perform member.peer ⟨part, member.solver⟩).2.2.store.values[key]? = _ at found
      rw [values] at found
      rcases LocalStore.mem_or_of_getElem?_writes found with written | before
      · have inside := @List.mem_map_of_mem _ _ _ _ Prod.fst written
        rw [keys] at inside
        obtain ⟨identifier, -, same⟩ := List.mem_map.mp inside
        exact ⟨identifier, same.symm⟩
      · cases (nothing key).symm.trans before

end MemberAction

end ClauseSharing
