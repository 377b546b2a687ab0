import ClauseSharing.Peer.Import
import ClauseSharing.Peer.Inbox
import ClauseSharing.Peer.Publish

/-! # Looking through a world

What a peer does, it does by the commands of the store and of the host alone. So if a world is seen
in another one in such a way that each command does and answers the same there, then so does a
publication (`Peer.publish_view`) and so does an import (`Peer.importInbox_view`). Whatever a world
keeps beside what the commands work on makes no difference. Of the lists of a store, a peer asks for
its inbox only, so it is enough that the commands on that list are seen as they are
(`Store.RespectsAt`). -/

namespace ClauseSharing

variable {ω ο κ : Type}

/-- Whether the commands of a store do and answer the same where a world is seen in another one. -/
structure Store.Respects [Store ω] [Store ο] (view : ω → ο) : Prop where
  connect : ∀ world, connect (view world) = (connect world).map id view
  release : ∀ world, release (view world) = view (release world)
  writeBatch : ∀ writes world,
    writeBatch writes (view world) = (writeBatch writes world).map id view
  listLength : ∀ name world, listLength name (view world) = (listLength name world).map id view
  popBatch : ∀ name count world,
    popBatch name count (view world) = (popBatch name count world).map id view
  push : ∀ name records world, push name records (view world) =
    (push name records world).map id view
  flush : ∀ world, flush (view world) = (flush world).map id view

/-- Whether the commands that a peer with this inbox gives do and answer the same where a world is
seen in another one. -/
structure Store.RespectsAt [Store ω] [Store ο] (inbox : String) (view : ω → ο) : Prop where
  connect : ∀ world, connect (view world) = (connect world).map id view
  release : ∀ world, release (view world) = view (release world)
  writeBatch : ∀ writes world,
    writeBatch writes (view world) = (writeBatch writes world).map id view
  listLength : ∀ world, listLength inbox (view world) = (listLength inbox world).map id view
  popBatch : ∀ count world,
    popBatch inbox count (view world) = (popBatch inbox count world).map id view
  push : ∀ records world,
    push inbox records (view world) = (push inbox records world).map id view

theorem Store.Respects.at [Store ω] [Store ο] {view : ω → ο} (respects : Store.Respects view)
    (inbox : String) : Store.RespectsAt inbox view where
  connect := respects.connect
  release := respects.release
  writeBatch := respects.writeBatch
  listLength := respects.listLength inbox
  popBatch := respects.popBatch inbox
  push := respects.push inbox

/-- Whether the calls of a host do and answer the same where a world is seen in another one. -/
structure Host.Respects [Host ω κ] [Host ο κ] (view : ω → ο) : Prop where
  decisionLevel : ∀ world, decisionLevel (view world) = decisionLevel world
  value : ∀ atom world, value? atom (view world) = value? atom world
  assign : ∀ literal world, assign literal (view world) = view (assign literal world)
  setUnsatisfiable : ∀ world, setUnsatisfiable (view world) = view (setUnsatisfiable world)
  allocate : ∀ literals distance world,
    allocate literals distance (view world) = (allocate literals distance world).map id view
  markTier : ∀ key tier world, markTier key tier (view world) = view (markTier key tier world)
  setTouched : ∀ key conflicts world,
    setTouched key conflicts (view world) = view (setTouched key conflicts world)
  bumpClause : ∀ key world, bumpClause key (view world) = view (bumpClause key world)
  attach : ∀ key world, attach key (view world) = view (attach key world)
  decayClauses : ∀ world, decayClauses (view world) = view (decayClauses world)
  noteCopy : ∀ key world, noteCopy key (view world) = (noteCopy key world).map id view
  isAdaptive : ∀ world, isAdaptive (view world) = isAdaptive world
  recordDistance : ∀ distance world,
    recordDistance distance (view world) = view (recordDistance distance world)
  decayAtoms : ∀ world, decayAtoms (view world) = view (decayAtoms world)
  conflicts : ∀ world, conflicts (view world) = conflicts world

section

variable [Store ω] [Store ο] {inbox : String} {view : ω → ο}
  (respects : Store.RespectsAt inbox view)

include respects

theorem Store.overConnection_view {α : Type} {command : ω → Except StoreError α × ω}
    {seen : ο → Except StoreError α × ο}
    (same : ∀ world, seen (view world) = (command world).map id view) (world : ω) :
    overConnection seen (view world) = (overConnection command world).map id view := by
  rw [overConnection, overConnection, respects.connect]
  generalize connect world = answer
  obtain ⟨outcome, connected⟩ := answer
  cases outcome with
  | error reason => rfl
  | ok _ =>
    dsimp only [Prod.map, id]
    rw [same]
    dsimp only [Prod.map, id]
    rw [respects.release]

namespace Publish

variable {config : Config} {source : κ → Option Clause}

theorem unitBatches_view (batches : List (List Literal)) (progress : PublishProgress) (world : ω) :
    unitBatches config batches progress (view world) =
      (unitBatches config batches progress world).map id (Prod.map id view) := by
  induction batches generalizing progress world with
  | nil => rfl
  | cons batch batches ih =>
    rw [unitBatches, unitBatches]
    cases progress.counter.takeMany? batch.length with
    | none => rfl
    | some taken =>
      dsimp only
      rw [respects.writeBatch]
      generalize Store.writeBatch _ world = answer
      obtain ⟨outcome, next⟩ := answer
      cases outcome with
      | error reason => rfl
      | ok _ => exact ih _ _

theorem writeClauses_view (batch : List Write) (progress : PublishProgress) (world : ω) :
    writeClauses batch progress (view world) =
      (writeClauses batch progress world).map id (Prod.map id view) := by
  rw [writeClauses, writeClauses]
  split
  · rfl
  · rw [respects.writeBatch]
    generalize Store.writeBatch batch world = answer
    obtain ⟨outcome, next⟩ := answer
    cases outcome <;> rfl

theorem clauseBatches_view (keys : List κ) (batch : List Write) (progress : PublishProgress)
    (world : ω) :
    clauseBatches config source keys batch progress (view world) =
      (clauseBatches config source keys batch progress world).map id (Prod.map id view) := by
  induction keys generalizing batch progress world with
  | nil =>
    rw [clauseBatches, clauseBatches, writeClauses_view respects]
    generalize writeClauses batch progress world = answer
    obtain ⟨outcome, reached, next⟩ := answer
    cases outcome <;> rfl
  | cons key keys ih =>
    rw [clauseBatches, clauseBatches]
    generalize progress.countProcessed = progress
    cases source key with
    | none => rfl
    | some clause =>
      dsimp only
      split
      · rfl
      · split
        · exact ih _ _ _
        · cases progress.counter.take? with
          | none =>
            dsimp only
            rw [writeClauses_view respects]
            generalize writeClauses batch progress world = answer
            obtain ⟨outcome, reached, next⟩ := answer
            cases outcome <;> rfl
          | some taken =>
            dsimp only
            split
            · rw [writeClauses_view respects]
              generalize writeClauses _ _ world = answer
              obtain ⟨outcome, reached, next⟩ := answer
              cases outcome with
              | error reason => rfl
              | ok _ => exact ih _ _ _
            · exact ih _ _ _

end Publish

namespace Peer

variable (peer : Peer κ) (source : κ → Option Clause)

theorem publishUnits_view (report : PublishReport) (world : ω) :
    peer.publishUnits report (view world) =
      (peer.publishUnits report world).map id (Prod.map id (Prod.map id view)) := by
  rw [publishUnits, publishUnits, Publish.unitBatches_view respects]
  generalize Publish.unitBatches peer.config _ _ world = answer
  obtain ⟨outcome, progress, next⟩ := answer
  cases outcome with
  | error reason => rfl
  | ok _ =>
    dsimp only [Prod.map, id]
    cases (peer.withProgress progress).outbox.drainUnits progress.report.units <;> rfl

theorem publishClauses_view (report : PublishReport) (world : ω) :
    peer.publishClauses source report (view world) =
      (peer.publishClauses source report world).map id (Prod.map id (Prod.map id view)) := by
  rw [publishClauses, publishClauses, Publish.clauseBatches_view respects]
  generalize Publish.clauseBatches peer.config source _ [] _ world = answer
  obtain ⟨outcome, progress, next⟩ := answer
  cases outcome with
  | error reason => rfl
  | ok _ =>
    dsimp only [Prod.map, id]
    cases (peer.withProgress progress).outbox.drainClauses progress.processed <;> rfl

theorem publishQueued_view (world : ω) :
    peer.publishQueued source (view world) =
      (peer.publishQueued source world).map id (Prod.map id view) := by
  rw [publishQueued, publishQueued]
  split
  · rfl
  · rw [publishUnits_view respects]
    generalize peer.publishUnits { connected := true } world = answer
    obtain ⟨outcome, report, sent, reached⟩ := answer
    cases outcome with
    | error reason => rfl
    | ok _ =>
      dsimp only [Prod.map, id]
      rw [publishClauses_view respects]
      generalize sent.publishClauses source report reached = answer
      obtain ⟨outcome, report, last, final⟩ := answer
      cases outcome <;> rfl

/-- **A publication is seen as a publication** wherever the commands of the store are seen as they
are. -/
theorem publish_view (world : ω) :
    peer.publish source (view world) = (peer.publish source world).map id (Prod.map id view) := by
  rw [publish, publish]
  split
  · rfl
  · rw [respects.connect]
    generalize Store.connect world = answer
    obtain ⟨outcome, connected⟩ := answer
    cases outcome with
    | error reason => rfl
    | ok _ =>
      dsimp only [Prod.map, id]
      rw [publishQueued_view respects]
      dsimp only [Prod.map, id]
      rw [respects.release]

theorem fetchInbox_view (world : ω) :
    fetchInbox inbox (view world) = (fetchInbox inbox world).map id view := by
  rw [fetchInbox, fetchInbox, respects.listLength]
  generalize Store.listLength inbox world = answer
  obtain ⟨outcome, asked⟩ := answer
  match outcome with
  | .error reason => rfl
  | .ok 0 => rfl
  | .ok (pending + 1) =>
    simp only [Prod.map, id, respects.popBatch]
    generalize Store.popBatch inbox (pending + 1) asked = answer
    obtain ⟨outcome, popped⟩ := answer
    cases outcome <;> rfl

theorem popInbox_view (world : ω) :
    popInbox inbox (view world) = (popInbox inbox world).map id view := by
  rw [popInbox, popInbox, Store.overConnection_view respects (fetchInbox_view respects)]
  generalize Store.overConnection (fetchInbox inbox) world = answer
  obtain ⟨outcome, popped⟩ := answer
  cases outcome with
  | error reason => rfl
  | ok fetched =>
    dsimp only [Prod.map, id]
    split <;> rfl

end Peer

end

theorem Peer.raised_view {α : Type} (view : ω → ο) (answer : Except StoreError α × ω) :
    raised (answer.map id view) = (raised answer).map id view := by
  obtain ⟨outcome, world⟩ := answer
  cases outcome <;> rfl

section

variable [Host ω κ] [Host ο κ] {view : ω → ο} (respects : Host.Respects view)

namespace ImportProgress

/-- An import that has come as far, in the world as it is seen. -/
def mapWorld (view : ω → ο) (progress : ImportProgress ω) : ImportProgress ο :=
  ⟨progress.tally, progress.report, view progress.world⟩

theorem countTier_view (progress : ImportProgress ω) (tier : Tier) :
    (progress.mapWorld view).countTier tier = (progress.countTier tier).mapWorld view := by
  cases tier <;> rfl

theorem lifted_view (progress : ImportProgress ω) (reached : Prop) [Decidable reached] :
    (if reached then (progress.mapWorld view).countLifted else progress.mapWorld view) =
      (if reached then progress.countLifted else progress).mapWorld view := by
  split <;> rfl

theorem act_view {change : ω → ω} {seen : ο → ο}
    (same : ∀ world, seen (view world) = view (change world)) (progress : ImportProgress ω) :
    (progress.mapWorld view).act seen = (progress.act change).mapWorld view := by
  rw [act, mapWorld]
  dsimp only
  rw [same]
  rfl

include respects

theorem recordDistance_view (clause : Clause) (world : ω) :
    recordDistance clause (view world) = view (recordDistance clause world) := by
  rw [recordDistance, recordDistance, respects.isAdaptive, respects.recordDistance, apply_ite view]

theorem noteCopy_view (settings : TierSettings) (clause : Clause) (world : ω) :
    noteCopy settings clause (view world) = (noteCopy settings clause world).map id view := by
  rw [noteCopy, noteCopy]
  split
  · exact respects.noteCopy _ world
  · rfl

theorem enterTier_view (key : κ) (tier : Tier) (world : ω) :
    enterTier key tier (view world) = view (enterTier key tier world) := by
  cases tier with
  | core => rfl
  | second =>
    rw [enterTier, enterTier, respects.conflicts, respects.setTouched]
  | active => exact respects.bumpClause key world

theorem settle_view (key : κ) (world : ω) : settle key (view world) = view (settle key world) := by
  rw [settle, settle, respects.attach, respects.isAdaptive, respects.decayAtoms,
    ← apply_ite view, respects.decayClauses]

theorem integrateUnit_view (progress : ImportProgress ω) (literal : Literal) :
    (progress.mapWorld view).integrateUnit literal =
      (progress.integrateUnit literal).mapWorld view := by
  have looked : Host.value? literal.atom (progress.mapWorld view).world =
    Host.value? literal.atom progress.world := respects.value _ _
  rw [integrateUnit, integrateUnit, looked]
  split
  · rw [act_view (respects.assign literal)]
    rfl
  · split
    · rfl
    · rw [act_view respects.setUnsatisfiable]
      rfl

theorem integrateClause_view (settings : TierSettings) (progress : ImportProgress ω)
    (clause : Clause) :
    (progress.mapWorld view).integrateClause settings clause =
      (progress.integrateClause settings clause).mapWorld view := by
  have stored : Host.allocate clause clause.distance (progress.mapWorld view).world =
    (Host.allocate clause clause.distance progress.world).map id view := respects.allocate ..
  rw [integrateClause, integrateClause, stored]
  generalize Host.allocate clause clause.distance progress.world = answer
  obtain ⟨key, allocated⟩ := answer
  dsimp only [Prod.map, id]
  rw [noteCopy_view respects]
  generalize noteCopy settings clause allocated = answer
  obtain ⟨copies, noted⟩ := answer
  have moved : ({ progress.mapWorld view with world := view noted } : ImportProgress ο) =
    { progress with world := noted }.mapWorld view := rfl
  have entered (tier : Tier) (progress : ImportProgress ω) :
      ((progress.mapWorld view).act fun world =>
        enterTier key tier (Host.markTier key tier world)) =
        (progress.act fun world => enterTier key tier (Host.markTier key tier world)).mapWorld
          view :=
    act_view (fun world => by rw [respects.markTier, enterTier_view respects]) progress
  dsimp only [Prod.map, id]
  rw [moved, lifted_view, entered, countTier_view, act_view (settle_view respects key)]

theorem integrate_view (settings : TierSettings) (progress : ImportProgress ω) (clause : Clause) :
    (progress.mapWorld view).integrate settings clause =
      (progress.integrate settings clause).map id (mapWorld view) := by
  unfold integrate
  dsimp only
  rw [act_view (recordDistance_view respects clause)]
  match clause with
  | [] => rfl
  | [literal] => exact congrArg (Prod.mk _) (integrateUnit_view respects _ literal)
  | first :: second :: rest =>
    exact congrArg (Prod.mk _) (integrateClause_view respects settings _ _)

theorem integrateRecords_view (settings : TierSettings) (records : List String)
    (progress : ImportProgress ω) :
    (progress.mapWorld view).integrateRecords settings records =
      (progress.integrateRecords settings records).map id (mapWorld view) := by
  induction records generalizing progress with
  | nil => rfl
  | cons record rest ih =>
    rw [integrateRecords_cons, integrateRecords_cons]
    cases Record.decode record with
    | error reason => rfl
    | ok clause =>
      dsimp only
      rw [integrate_view respects]
      generalize progress.integrate settings clause = answer
      obtain ⟨outcome, next⟩ := answer
      cases outcome with
      | error reason => rfl
      | ok _ =>
        dsimp only [Prod.map, id]
        have reports : (next.mapWorld view).report = next.report := rfl
        rw [reports]
        split
        · rfl
        · exact ih next

end ImportProgress

namespace Peer

include respects

theorem integrateAll_view (peer : Peer κ) (records : List String) (world : ω) :
    peer.integrateAll records (view world) =
      (peer.integrateAll records world).map id (Prod.map id view) := by
  have started := ImportProgress.integrateRecords_view respects peer.config.tiers records
    (⟨{ peer.tally with recordsImported := peer.tally.recordsImported + records.length },
      { records := records.length }, world⟩ : ImportProgress ω)
  rw [ImportProgress.mapWorld] at started
  rw [integrateAll, integrateAll, started]
  rfl

end Peer

end

namespace Peer

section

variable [Store ω] [Store ο] {view : ω → ο} (peer : Peer κ)
  (respects : Store.RespectsAt peer.config.store.inbox view)

include respects

theorem inboxLength_view (world : ω) :
    peer.inboxLength (view world) = (peer.inboxLength world).map id view := by
  rw [inboxLength, Store.overConnection_view respects respects.listLength, raised_view]
  rfl

theorem pushInbox_view (records : List String) (world : ω) :
    peer.pushInbox records (view world) = (peer.pushInbox records world).map id view := by
  rw [pushInbox, Store.overConnection_view respects (respects.push records), raised_view]
  rfl

/-- **An import is seen as an import** wherever the commands of the store and the calls of the host
are seen as they are. -/
theorem importInbox_view [Host ω κ] [Host ο κ] (host : Host.Respects view) (world : ω) :
    peer.importInbox (view world) = (peer.importInbox world).map id (Prod.map id view) := by
  rw [importInbox, importInbox, host.decisionLevel]
  split
  · rfl
  · rw [popInbox_view respects]
    generalize popInbox peer.config.store.inbox world = answer
    obtain ⟨outcome, popped⟩ := answer
    cases outcome with
    | error reason => rfl
    | ok records => exact integrateAll_view host peer records popped

omit respects in
theorem flushStore_view (respects : Store.Respects view) (world : ω) :
    peer.flushStore (view world) = (peer.flushStore world).map id view := by
  rw [flushStore, Store.overConnection_view (respects.at peer.config.store.inbox) respects.flush,
    raised_view]
  rfl

end

end Peer

end ClauseSharing
