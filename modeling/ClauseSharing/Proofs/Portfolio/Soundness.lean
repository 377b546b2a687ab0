import ClauseSharing.Proofs.Portfolio.Routing
import ClauseSharing.Proofs.Publish.Frame
import ClauseSharing.Proofs.Record
import ClauseSharing.Proofs.Solver.Soundness

/-! # Portfolios are sound

In a portfolio whose solvers learn only what follows from a formula, and whose inboxes are filled
only with records that once stood under a key, everything follows from the formula: live clauses,
values at decision level zero, marks, and every record in the store, after any actions in any order
and with any of the store's faults switched on and off between them
(`Portfolio.follows_of_permitted`). The invariant is `Portfolio.Sound`. It says what holds of every
member and of the store together, and every action keeps it (`Portfolio.sound_perform`). -/

namespace ClauseSharing

variable {formula : Formula}

namespace Formula

theorem entailsRecord_encode {clause : Clause} (entailed : formula.Entails clause) :
    formula.EntailsRecord (Record.encode clause) := by
  intro other read
  rw [Record.decode_encode] at read
  rw [← Except.ok.inj read]
  exact entailed

end Formula

/-- Whether a record has stood under a key. -/
def KeptIn (past : List LocalStore) (record : String) : Prop :=
  ∃ store ∈ past, ∃ key, store.value? key = some record

/-- What a peer sees: a store of records that follow, and a solver that stays as it is. -/
structure Beside (formula : Formula) (solver : Solver)
    (world : World LocalStore Solver) : Prop where
  store : world.store.Every formula.EntailsRecord
  host : world.host = solver

namespace Beside

variable {solver : Solver} {world : World LocalStore Solver}

theorem keeps : Publish.Keeps (fun pair => formula.EntailsRecord pair.2)
    (Beside formula solver) where
  connect := fun _ before => ⟨LocalStore.every_connect before.store, before.host⟩
  release := fun _ before => ⟨LocalStore.every_release before.store, before.host⟩
  writeBatch := fun _ _ new before => ⟨LocalStore.every_writeBatch before.store new, before.host⟩

theorem overConnection {α : Type}
    {command : World LocalStore Solver → Except StoreError α × World LocalStore Solver}
    (commands : ∀ world, Beside formula solver world → Beside formula solver (command world).2)
    (before : Beside formula solver world) :
    Beside formula solver (Peer.raised (Store.overConnection command world)).2 := by
  have connected := keeps.connect world before
  rw [Peer.raised_snd]
  rcases Store.overConnection_cases command world with
    ⟨reason, next, connects, refused⟩ | ⟨next, connects, done⟩
  · rw [connects] at connected
    rw [refused]
    exact connected
  · rw [connects] at connected
    rw [done]
    exact keeps.release _ (commands next connected)

theorem pushInbox (peer : Peer LearntKey) {records : List String}
    (follow : ∀ record ∈ records, formula.EntailsRecord record)
    (before : Beside formula solver world) :
    Beside formula solver (peer.pushInbox records world).2 :=
  overConnection (fun _ before => ⟨LocalStore.every_push _ before.store follow, before.host⟩) before

end Beside

/-- What an instance and its store know follows, and so do the units that it is about to publish. -/
structure Peer.Sound (formula : Formula) (peer : Peer LearntKey) (world : World LocalStore Solver) :
    Prop where
  store : world.store.Every formula.EntailsRecord
  knowledge : world.host.knowledge.Sound formula
  units : ∀ literal ∈ peer.outbox.units, formula.Entails [literal]

namespace Peer

variable {peer : Peer LearntKey} {world : World LocalStore Solver}

theorem Sound.of_beside {after : World LocalStore Solver} (sound : peer.Sound formula world)
    (beside : Beside formula world.host after) : peer.Sound formula after where
  store := beside.store
  knowledge := beside.host ▸ sound.knowledge
  units := sound.units

/-- A publication writes what follows, however it ends. -/
theorem Sound.publish (sound : peer.Sound formula world) :
    (peer.publish world.host.literals? world).2.1.Sound formula
      (peer.publish world.host.literals? world).2.2 := by
  have units : ∀ literal ∈ peer.outbox.units, ∀ _ : Nat,
      formula.EntailsRecord (Record.encodeUnit literal) :=
    fun literal inside _ => Formula.entailsRecord_encode (sound.units literal inside)
  have clauses : ∀ key clause, world.host.literals? key = some clause → ∀ _ : Nat,
      formula.EntailsRecord (Record.encode clause) := by
    intro key clause found _
    apply Formula.entailsRecord_encode
    exact sound.knowledge.clauses clause (Solver.mem_knowledge_clauses.mpr ⟨key, found⟩)
  have before : Beside formula world.host world := ⟨sound.store, rfl⟩
  obtain ⟨relieves, beside⟩ := publish_keeps Beside.keeps units clauses before
  refine ⟨beside.store, ?_, fun literal inside => sound.units literal (relieves.units inside)⟩
  rw [beside.host]
  exact sound.knowledge

/-- An import takes in what follows, however it ends. -/
theorem Sound.importInbox (sound : peer.Sound formula world) :
    (peer.importInbox world).2.1.Sound formula (peer.importInbox world).2.2 := by
  obtain ⟨kept, popped⟩ := LocalStore.every_popInbox peer.config.store.inbox sound.store
  rcases peer.importInbox_cases world with ⟨reason, decided⟩ | ⟨reason, store, popping, unpopped⟩ |
    ⟨records, store, level, popping, outcome, report, tally, last, imported, same, intake⟩
  · rw [decided]
    exact sound
  · rw [popping] at kept
    rw [unpopped]
    exact ⟨kept, sound.knowledge, sound.units⟩
  · rw [popping] at kept popped
    rw [imported]
    exact ⟨same ▸ kept, sound.knowledge.intake level (popped records rfl) intake, sound.units⟩

end Peer

namespace PeerAction

/-- What a peer may be asked: the units that it queues have to follow, and what is put in an inbox
has to have stood under a key. -/
def Permitted (formula : Formula) (past : List LocalStore) : PeerAction → Prop
  | .queueUnit literal => formula.Entails [literal]
  | .pushInbox records => ∀ record ∈ records, KeptIn past record
  | _ => True

/-- Whatever a peer is asked that is permitted keeps it sound, whether it succeeds or fails. -/
theorem sound_perform {peer : Peer LearntKey} {world : World LocalStore Solver}
    {past : List LocalStore} (kept : ∀ record, KeptIn past record → formula.EntailsRecord record)
    {action : PeerAction} (permitted : action.Permitted formula past)
    (sound : peer.Sound formula world) :
    (action.perform peer world).2.1.Sound formula (action.perform peer world).2.2 := by
  have before : Beside formula world.host world := ⟨sound.store, rfl⟩
  cases action with
  | queueUnit literal =>
    refine ⟨sound.store, sound.knowledge, fun other inside => ?_⟩
    rcases List.mem_append.mp inside with queued | new
    · exact sound.units other queued
    · rw [List.mem_singleton.mp new]
      exact permitted
  | queueClause key => exact ⟨sound.store, sound.knowledge, sound.units⟩
  | publish => exact sound.publish
  | importInbox => exact sound.importInbox
  | inboxLength =>
    apply sound.of_beside
    exact Beside.overConnection (fun _ before =>
      ⟨LocalStore.every_listLength peer.config.store.inbox before.store, before.host⟩) before
  | pushInbox records =>
    apply sound.of_beside
    exact Beside.pushInbox peer (fun record inside => kept record (permitted record inside)) before
  | flushStore =>
    apply sound.of_beside
    exact Beside.overConnection (fun _ before =>
      ⟨LocalStore.every_flush _, before.host⟩) before
  | route stem =>
    apply sound.of_beside
    refine Beside.pushInbox peer (fun record inside => ?_) before
    obtain ⟨key, found⟩ := exists_of_mem_publishedUnder inside
    exact sound.store.values key record found

end PeerAction

namespace StoreCommand

/-- What may be asked of a store over an open connection: what is written or pushed has to have
stood under a key. -/
def Permitted (past : List LocalStore) : StoreCommand → Prop
  | .writeBatch writes => ∀ pair ∈ writes, KeptIn past pair.2
  | .push _ records => ∀ record ∈ records, KeptIn past record
  | _ => True

theorem every_perform {store : LocalStore} {past : List LocalStore}
    (kept : ∀ record, KeptIn past record → formula.EntailsRecord record)
    {command : StoreCommand} (permitted : command.Permitted past)
    (every : store.Every formula.EntailsRecord) :
    (command.perform store).2.Every formula.EntailsRecord := by
  cases command with
  | writeBatch writes =>
    exact LocalStore.every_writeBatch every fun pair inside => kept pair.2 (permitted pair inside)
  | listLength name => exact LocalStore.every_listLength name every
  | popBatch name count => exact (LocalStore.every_popBatch name count every).1
  | push name records =>
    exact LocalStore.every_push name every fun record inside =>
      kept record (permitted record inside)
  | flush => exact LocalStore.every_flush store

end StoreCommand

namespace PortfolioAction

/-- What may happen in a portfolio, given the stores that there have been. -/
def Permitted (formula : Formula) (past : List LocalStore) (portfolio : Portfolio) :
    PortfolioAction → Prop
  | .solver member action =>
    ∀ current, portfolio.members[member]? = some current → action.Permitted formula current.solver
  | .peer _ action => action.Permitted formula past
  | .store (.over _ command) => command.Permitted past
  | .store _ => True

end PortfolioAction

namespace Portfolio

/-- Whether everything that members and the store hold follows, but for values that going back would
erase. -/
structure Sound (formula : Formula) (portfolio : Portfolio) : Prop where
  store : portfolio.store.Every formula.EntailsRecord
  members : ∀ member ∈ portfolio.members,
    member.peer.Sound formula ⟨portfolio.store, member.solver⟩

variable {portfolio : Portfolio} {past : List LocalStore}

/-- A sound store may be put in place of another, and a sound member in place of another. -/
theorem Sound.update (sound : portfolio.Sound formula) {store : LocalStore}
    (every : store.Every formula.EntailsRecord) (connections : Std.ExtTreeMap String Unit) :
    Sound formula { portfolio with store, connections } :=
  ⟨every, fun member inside =>
    ⟨every, (sound.members member inside).knowledge, (sound.members member inside).units⟩⟩

theorem Sound.setMember (sound : portfolio.Sound formula) {store : LocalStore} {member : Member}
    (new : member.peer.Sound formula ⟨store, member.solver⟩) (place : Nat) :
    Sound formula { portfolio with
      store, members := portfolio.members.setIfInBounds place member } := by
  refine ⟨new.store, fun other inside => ?_⟩
  rcases Array.mem_or_eq_of_mem_setIfInBounds inside with before | rfl
  · exact ⟨new.store, (sound.members other before).knowledge, (sound.members other before).units⟩
  · exact new

theorem sound_performStore (sound : portfolio.Sound formula)
    (kept : ∀ record, KeptIn past record → formula.EntailsRecord record) {action : StoreAction}
    (permitted : (PortfolioAction.store action).Permitted formula past portfolio) :
    (portfolio.performStore action).2.Sound formula := by
  have every := sound.store
  match action, permitted with
  | .setUnreachable _, _ | .setReplyLimit _, _ | .setPopLimit _, _ =>
    apply sound.update
    exact every.of_same rfl rfl
  | .connect connection, _ =>
    have connected := LocalStore.every_connect every
    rw [performStore]
    generalize portfolio.store.connect = answer at connected ⊢
    obtain ⟨outcome, store⟩ := answer
    cases outcome with
    | error reason => exact sound.update connected _
    | ok _ =>
      apply sound.update
      split
      · exact LocalStore.every_release connected
      · exact connected
  | .close connection, _ =>
    rw [performStore]
    split
    · exact sound.update (LocalStore.every_release every) _
    · exact sound
  | .over connection command, permitted =>
    rw [performStore]
    split
    · exact sound.update (StoreCommand.every_perform kept permitted every) _
    · exact sound

/-- **Every permitted action keeps a portfolio sound**, whatever comes of it. -/
theorem sound_perform (sound : portfolio.Sound formula)
    (kept : ∀ record, KeptIn past record → formula.EntailsRecord record) {action : PortfolioAction}
    (permitted : action.Permitted formula past portfolio) :
    (portfolio.perform action).2.Sound formula := by
  cases action with
  | solver member action =>
    rw [perform]
    cases found : portfolio.members[member]? with
    | none => exact sound
    | some current =>
      have before := sound.members current (Array.mem_of_getElem? found)
      have after := SolverAction.sound_perform (permitted current found) before.knowledge
      refine sound.setMember ?_ member
      exact ⟨sound.store, after, before.units⟩
  | peer member action =>
    rw [perform]
    cases found : portfolio.members[member]? with
    | none => exact sound
    | some current =>
      have before := sound.members current (Array.mem_of_getElem? found)
      have after := PeerAction.sound_perform kept permitted before
      refine sound.setMember ?_ member
      exact after
  | store action => exact sound_performStore sound kept permitted

/-- Whether nothing has happened yet: nothing is in the store, no solver knows anything, and nothing
waits to be published. -/
structure Fresh (portfolio : Portfolio) : Prop where
  values : portfolio.store.values = ∅
  lists : portfolio.store.lists = ∅
  solvers : ∀ member ∈ portfolio.members, ∃ config, member.solver = .starting config
  outboxes : ∀ member ∈ portfolio.members, member.peer.outbox = {}

/-- Whether every action is permitted in the portfolio that it meets. The stores that there have
been are `past`, the last one first. -/
def PermittedRun (formula : Formula) : List LocalStore → Portfolio → List PortfolioAction → Prop
  | _, _, [] => True
  | past, portfolio, action :: actions =>
    action.Permitted formula (portfolio.store :: past) portfolio ∧
      PermittedRun formula (portfolio.store :: past) (portfolio.perform action).2 actions

/-- Whether all that members and the store hold follows from a formula, values only at decision
level zero. -/
structure Follows (formula : Formula) (portfolio : Portfolio) : Prop where
  clauses : ∀ member ∈ portfolio.members, ∀ key clause,
    member.solver.literals? key = some clause → formula.Entails clause
  values : ∀ member ∈ portfolio.members, member.solver.assignment.level = 0 → ∀ atom value,
    member.solver.assignment.value? atom = some value → formula.Entails [⟨atom, value⟩]
  marks : ∀ member ∈ portfolio.members, member.solver.satisfiable = false → formula.Unsatisfiable
  stored : ∀ key record clause, portfolio.store.value? key = some record →
    Record.decode record = .ok clause → formula.Entails clause
  waiting : ∀ inbox, ∀ record ∈ portfolio.store.list inbox, ∀ clause,
    Record.decode record = .ok clause → formula.Entails clause

theorem Fresh.sound (fresh : portfolio.Fresh) : portfolio.Sound formula := by
  have every : portfolio.store.Every formula.EntailsRecord :=
    LocalStore.every_empty.of_same fresh.values fresh.lists
  refine ⟨every, fun member inside => ⟨every, ?_, ?_⟩⟩
  · obtain ⟨config, starting⟩ := fresh.solvers member inside
    rw [starting]
    exact Solver.sound_starting config
  · rw [fresh.outboxes member inside]
    exact fun _ none => absurd none List.not_mem_nil

theorem Sound.follows (sound : portfolio.Sound formula) : portfolio.Follows formula where
  clauses := fun member inside key clause found =>
    (sound.members member inside).knowledge.clauses clause
      (Solver.mem_knowledge_clauses.mpr ⟨key, found⟩)
  values := fun member inside level _ _ found =>
    (sound.members member inside).knowledge.grounded.entails level found
  marks := fun member inside => (sound.members member inside).knowledge.refuted
  stored := fun key record clause found read => sound.store.values key record found clause read
  waiting :=
    fun inbox record inside clause read => sound.store.lists inbox record inside clause read

/-- What has stood under a key before a run follows, and so does what is stored on the way. -/
theorem sound_run {actions : List PortfolioAction} (sound : portfolio.Sound formula)
    (kept : ∀ record, KeptIn past record → formula.EntailsRecord record)
    (permitted : PermittedRun formula past portfolio actions) :
    (portfolio.run actions).2.Sound formula := by
  induction actions generalizing portfolio past with
  | nil => exact sound
  | cons action actions ih =>
    obtain ⟨first, others⟩ := permitted
    have still : ∀ record, KeptIn (portfolio.store :: past) record →
        formula.EntailsRecord record := by
      rintro record ⟨store, inside, key, found⟩
      rcases List.mem_cons.mp inside with rfl | before
      · exact sound.store.values key record found
      · exact kept record ⟨store, before, key, found⟩
    exact ih (sound_perform sound still first) still others

/-- **Sharing is sound.** From a fresh portfolio, whatever permitted actions are taken in whatever
order and whatever comes of them: all that is then held by members and by the store follows. No more
decisions stand at once than a level counts, which is part of what is permitted. -/
theorem follows_of_permitted {start : Portfolio} (fresh : start.Fresh)
    {actions : List PortfolioAction} (permitted : PermittedRun formula [] start actions) :
    (start.run actions).2.Follows formula := by
  have nothing : ∀ record, KeptIn [] record → formula.EntailsRecord record := by
    rintro record ⟨store, none, -⟩
    exact absurd none List.not_mem_nil
  exact (sound_run fresh.sound nothing permitted).follows

/-- Two members that have done nothing. -/
def couple (config : Config) : Portfolio where
  members := #[.starting "first" config 0, .starting "second" config 0]

/-- The first member publishes a unit and a clause while it has made a decision and while replies
are lost, and the second one imports them. -/
def passing : List PortfolioAction :=
  [.solver 0 (.learn [⟨0, true⟩, ⟨1, false⟩] 2), .peer 0 (.queueUnit ⟨0, true⟩),
    .peer 0 (.queueClause ⟨0⟩), .solver 0 (.decide ⟨2, false⟩), .store (.setReplyLimit (some 0)),
    .peer 0 .publish, .solver 0 .backjump, .peer 1 (.route "from_minisat"), .peer 1 .importInbox]

theorem follows_of_permitted_passing :
    (couple {}).Fresh ∧ PermittedRun (fun truth => truth 0 = true) [] (couple {}) passing ∧
      ((couple {}).run passing).2.Follows fun truth => truth 0 = true := by
  have fresh : (couple {}).Fresh := by
    refine ⟨rfl, rfl, fun member inside => ?_, fun member inside => ?_⟩ <;>
      rcases List.mem_cons.mp (Array.mem_toList_iff.mpr inside) with rfl | second
    · exact ⟨{}, rfl⟩
    · exact ⟨{}, by rw [List.mem_singleton.mp second]; rfl⟩
    · rfl
    · rw [List.mem_singleton.mp second]
      rfl
  have learnt : Formula.Entails (fun truth => truth 0 = true) [⟨0, true⟩, ⟨1, false⟩] :=
    fun _ holds => ⟨⟨0, true⟩, List.mem_cons_self .., holds⟩
  have unit : Formula.Entails (fun truth => truth 0 = true) [⟨0, true⟩] :=
    fun _ holds => Clause.holds_singleton.mpr holds
  have undecided :
      ∀ member, (Portfolio.run (couple {}) (passing.take 3)).2.members[0]? = some member →
      member.solver.assignment.decisions.size + 1 < Assignment.levelCount := by
    intro member found
    cases found
    decide
  have permitted : PermittedRun (fun truth => truth 0 = true) [] (couple {}) passing :=
    ⟨fun _ _ => learnt, unit, trivial, undecided, trivial, trivial, fun _ _ => trivial,
      trivial, trivial, trivial⟩
  exact ⟨fresh, permitted, follows_of_permitted fresh permitted⟩

end Portfolio

end ClauseSharing
