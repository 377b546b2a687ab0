import ClauseSharing.Proofs.Import.Gain
import ClauseSharing.World

/-! # What giving clauses to a host can do

What giving any one clause to the host keeps, taking in records keeps
(`ImportProgress.integrateRecords_induction`). And all that this does to a world is to change the
host, so whatever every change to the host keeps is kept, whatever the records hold
(`Peer.integrateAll_keeps`). -/

namespace ClauseSharing

variable {ω κ : Type} [Host ω κ]

/-- Whether a property of worlds is kept by every change to the host. -/
structure Host.Keeps (holds : ω → Prop) : Prop where
  assign : ∀ literal (world : ω), holds world → holds (assign literal world)
  setUnsatisfiable : ∀ world : ω, holds world → holds (setUnsatisfiable world)
  allocate : ∀ literals distance (world : ω), holds world →
    holds (allocate literals distance world).2
  markTier : ∀ (key : κ) tier (world : ω), holds world → holds (markTier key tier world)
  setTouched : ∀ (key : κ) conflicts (world : ω), holds world →
    holds (setTouched key conflicts world)
  bumpClause : ∀ (key : κ) (world : ω), holds world → holds (bumpClause key world)
  attach : ∀ (key : κ) (world : ω), holds world → holds (attach key world)
  decayClauses : ∀ world : ω, holds world → holds (decayClauses world)
  noteCopy : ∀ key (world : ω), holds world → holds (noteCopy key world).2
  recordDistance : ∀ distance (world : ω), holds world → holds (recordDistance distance world)
  decayAtoms : ∀ world : ω, holds world → holds (decayAtoms world)

/-- The store beside a host stays as it is. -/
theorem World.keeps_store {σ η : Type} [Host η κ] (store : σ) :
    Host.Keeps fun world : World σ η => world.store = store :=
  ⟨fun _ _ same => same, fun _ same => same, fun _ _ _ same => same, fun _ _ _ same => same,
    fun _ _ _ same => same, fun _ _ same => same, fun _ _ same => same, fun _ same => same,
    fun _ _ same => same, fun _ _ same => same, fun _ same => same⟩

namespace ImportProgress

/-- What giving a clause to the host keeps, and giving up the records that are left, taking in
records keeps. -/
theorem integrateRecords_induction {settings : TierSettings} {motive : ImportProgress ω → Prop}
    (given : ∀ progress clause, motive progress → motive (progress.integrate settings clause).2)
    (discarded : ∀ (progress : ImportProgress ω) (left : Nat), motive progress →
      motive { progress with report := { progress.report with discarded := left } })
    (records : List String) {progress : ImportProgress ω} (before : motive progress) :
    motive (progress.integrateRecords settings records).2 := by
  induction records generalizing progress with
  | nil => exact before
  | cons record rest ih =>
    rw [integrateRecords_cons]
    cases Record.decode record with
    | error reason => exact before
    | ok clause =>
      have kept := given progress clause before
      dsimp only
      generalize progress.integrate settings clause = answer at kept ⊢
      obtain ⟨outcome, next⟩ := answer
      cases outcome with
      | error reason => exact kept
      | ok _ =>
        dsimp only
        split
        · exact discarded next rest.length kept
        · exact ih kept

/-- Taking in records does not fail because of the store. -/
theorem integrateRecords_ne_store (progress : ImportProgress ω) (settings : TierSettings)
    (records : List String) (reason : StoreError) :
    (progress.integrateRecords settings records).1 ≠ .error (.store reason) := by
  induction records generalizing progress with
  | nil => exact fun failed => by cases failed
  | cons record rest ih =>
    rw [integrateRecords_cons]
    cases Record.decode record with
    | error _ => exact fun failed => by cases failed
    | ok clause =>
      have given : (progress.integrate settings clause).1 ≠ .error (.store reason) := by
        unfold integrate
        dsimp only
        split
        · exact fun failed => by cases failed
        · exact fun failed => by cases failed
        · exact fun failed => by cases failed
      dsimp only
      generalize progress.integrate settings clause = answer at given ⊢
      obtain ⟨outcome, next⟩ := answer
      cases outcome with
      | error _ => exact given
      | ok _ =>
        dsimp only
        split
        · exact given
        · exact ih next

variable {holds : ω → Prop} (keeps : Host.Keeps holds)

include keeps

theorem recordDistance_keeps (clause : Clause) {world : ω} (before : holds world) :
    holds (recordDistance clause world) := by
  unfold recordDistance
  split
  · exact keeps.recordDistance _ world before
  · exact before

theorem noteCopy_keeps (settings : TierSettings) (clause : Clause) {world : ω}
    (before : holds world) :
    holds (noteCopy settings clause world).2 := by
  unfold noteCopy
  split
  · exact keeps.noteCopy _ world before
  · exact before

theorem enterTier_keeps (key : κ) (tier : Tier) {world : ω} (before : holds world) :
    holds (enterTier key tier world) := by
  cases tier with
  | core => exact before
  | second => exact keeps.setTouched key _ world before
  | active => exact keeps.bumpClause key world before

theorem settle_keeps (key : κ) {world : ω} (before : holds world) : holds (settle key world) := by
  have attached := keeps.attach key world before
  unfold settle
  dsimp only
  split
  · exact keeps.decayClauses _ (keeps.decayAtoms _ attached)
  · exact keeps.decayClauses _ attached

theorem integrateUnit_keeps (progress : ImportProgress ω) (literal : Literal)
    (before : holds progress.world) : holds (progress.integrateUnit literal).world := by
  unfold integrateUnit
  split
  · exact keeps.assign literal _ before
  · split
    · exact before
    · exact keeps.setUnsatisfiable _ before

theorem integrateClause_keeps (settings : TierSettings) (progress : ImportProgress ω)
    (clause : Clause) (before : holds progress.world) :
    holds (progress.integrateClause settings clause).world := by
  rw [world_integrateClause]
  have stored := keeps.allocate clause clause.distance progress.world before
  have noted := noteCopy_keeps keeps settings clause stored
  exact settle_keeps keeps _ (enterTier_keeps keeps _ _ (keeps.markTier _ _ _ noted))

theorem integrate_keeps (settings : TierSettings) (progress : ImportProgress ω) (clause : Clause)
    (before : holds progress.world) : holds (progress.integrate settings clause).2.world := by
  have told := recordDistance_keeps keeps clause before
  match clause with
  | [] => exact told
  | [literal] => exact integrateUnit_keeps keeps _ literal told
  | first :: second :: rest => exact integrateClause_keeps keeps settings _ _ told

theorem integrateRecords_keeps (settings : TierSettings) (records : List String)
    (progress : ImportProgress ω) (before : holds progress.world) :
    holds (progress.integrateRecords settings records).2.world :=
  integrateRecords_induction (motive := fun progress => holds progress.world)
    (integrate_keeps keeps settings) (fun _ _ kept => kept) records before

end ImportProgress

namespace Peer

/-- Giving popped records to the host does not fail because of the store. -/
theorem integrateAll_ne_store (peer : Peer κ) (records : List String) (world : ω)
    (reason : StoreError) :
    (peer.integrateAll records world).1 ≠ .error (.store reason) := by
  let start : ImportProgress ω :=
    ⟨{ peer.tally with recordsImported := peer.tally.recordsImported + records.length },
      { records := records.length }, world⟩
  have taken := start.integrateRecords_ne_store peer.config.tiers records reason
  change ((start.integrateRecords peer.config.tiers records).1.map _) ≠ _
  generalize start.integrateRecords peer.config.tiers records = answer at taken ⊢
  obtain ⟨outcome, progress⟩ := answer
  cases outcome with
  | error fault =>
    intro failed
    cases failed
    exact taken rfl
  | ok _ => exact fun failed => by cases failed

/-- **What every change to a host keeps, taking in records keeps**, whatever they hold. -/
theorem integrateAll_keeps {holds : ω → Prop} (keeps : Host.Keeps holds) (peer : Peer κ)
    (records : List String) {world : ω} (before : holds world) :
    holds (peer.integrateAll records world).2.2 :=
  ImportProgress.integrateRecords_keeps keeps _ records _ before

variable [Store ω]

theorem importInbox_of_decided (peer : Peer κ) {world : ω} (level : Host.decisionLevel world ≠ 0) :
    peer.importInbox world =
      (.error (.importing (.decisionLevel (Host.decisionLevel world))), peer, world) :=
  if_pos level

theorem importInbox_of_unpopped (peer : Peer κ) {world popped : ω} {reason : StoreError}
    (level : Host.decisionLevel world = 0)
    (popping : popInbox peer.config.store.inbox world = (.error reason, popped)) :
    peer.importInbox world = (.error (.store reason), peer, popped) := by
  simp only [importInbox, level, ne_eq, not_true_eq_false, ↓reduceIte, popping]

theorem importInbox_of_popped (peer : Peer κ) {world popped : ω} {records : List String}
    (level : Host.decisionLevel world = 0)
    (popping : popInbox peer.config.store.inbox world = (.ok records, popped)) :
    peer.importInbox world = peer.integrateAll records popped := by
  simp only [importInbox, level, ne_eq, not_true_eq_false, ↓reduceIte, popping]

end Peer

end ClauseSharing
