import ClauseSharing.Proofs.Publish.Batches

/-! # Publishing is exact

Where every queued clause is live and plural, enough identifiers are left and the store takes what
it is given, a publication writes all that waits and nothing else (`Peer.publish_of_acknowledges`).
Seen from the calls that are logged, it connects once, writes the units and then the clauses,
numbered through from the next identifier and cut into pieces of the greatest width, and releases
the connection (`Peer.publish_exact`). -/

namespace ClauseSharing

theorem Logged.connect_of_connect {ω κ : Type} [Store ω] {before : Logged κ ω} {connected : ω}
    (connects : Store.connect before.world = (.ok (), connected)) :
    Store.connect before = (.ok (), ⟨before.calls.push .connect, connected⟩) := by
  change Logged.ask .connect Store.connect before = _
  rw [Logged.ask, connects]

theorem Logged.toList_visit {ω κ : Type} [Store ω] (calls : Array (Call κ))
    (batches : List (List Write)) (last : ω) :
    (Store.release (⟨calls.push .connect ++ (batches.map Call.writeBatch).toArray, last⟩ :
      Logged κ ω)).calls.toList =
        calls.toList ++ [.connect] ++ batches.map .writeBatch ++ [.release] := by
  change (Array.push _ _).toList = _
  simp

namespace Peer

variable {ω κ : Type}

/-- The queued clauses that are not too long. -/
def sharedClauses (peer : Peer κ) (source : κ → Option Clause) : List Clause :=
  Publish.shared peer.config source peer.outbox.clauses

/-- The queued units as writes, from the next identifier on. -/
def unitWrites (peer : Peer κ) : List Write :=
  peer.config.store.numbered peer.counter.next (peer.outbox.units.map Record.encodeUnit)

/-- The queued clauses that are not too long as writes, from the first identifier behind those of
the units. -/
def clauseWrites (peer : Peer κ) (source : κ → Option Clause) : List Write :=
  peer.config.store.numbered (peer.counter.next + peer.outbox.units.length)
    ((peer.sharedClauses source).map Record.encode)

/-- What is to be written, batch by batch. -/
def batches (peer : Peer κ) (source : κ → Option Clause) : List (List Write) :=
  piecesOf peer.config.batchWidth peer.unitWrites ++
    piecesOf peer.config.batchWidth (peer.clauseWrites source)

/-- The report on all that waits being published. -/
def fullReport (peer : Peer κ) (source : κ → Option Clause) : PublishReport where
  units := peer.outbox.units.length
  clauses := (peer.sharedClauses source).length
  skipped := peer.outbox.clauses.length - (peer.sharedClauses source).length
  connected := true

/-- The peer once the units that wait have been published. -/
def withoutUnits (peer : Peer κ) : Peer κ :=
  { peer with
    counter := peer.counter.advance peer.outbox.units.length
    outbox := { peer.outbox with units := [] }
    tally := { peer.tally with
      unitsPublished := peer.tally.unitsPublished + peer.outbox.units.length } }

/-- The peer once all that waits has been published. -/
def relieved (peer : Peer κ) (source : κ → Option Clause) : Peer κ where
  config := peer.config
  counter := peer.counter.advance
    (peer.outbox.units.length + (peer.sharedClauses source).length)
  outbox := {}
  tally := { peer.tally with
    unitsPublished := peer.tally.unitsPublished + (peer.fullReport source).units
    clausesPublished := peer.tally.clausesPublished + (peer.fullReport source).clauses
    clausesSkipped := peer.tally.clausesSkipped + (peer.fullReport source).skipped }

variable [Store ω] {peer : Peer κ} {source : κ → Option Clause}

theorem publishUnits_of_acknowledges (positive : 0 < peer.config.batchWidth)
    (room : peer.outbox.units.length ≤ peer.counter.remaining) {world last : ω}
    (acknowledged : Store.Acknowledges world
      (piecesOf peer.config.batchWidth peer.unitWrites) last) :
    peer.publishUnits { connected := true } world =
      (.ok (), { units := peer.outbox.units.length, connected := true }, peer.withoutUnits,
        last) := by
  have written := Publish.unitBatches_of_acknowledges positive peer.outbox.units
    (peer.outset { connected := true }) room acknowledged
  rw [publishUnits, written]
  simp only [withProgress, Outbox.drainUnits, PublishProgress.afterUnits, outset,
    PublishProgress.countUnits, Nat.zero_add, ↓reduceIte]
  rfl

theorem publishClauses_of_acknowledges (peer : Peer κ) (positive : 0 < peer.config.batchWidth)
    (shareable : ∀ key ∈ peer.outbox.clauses, Publish.Shareable source key)
    (room : (peer.sharedClauses source).length ≤ peer.counter.remaining) {world last : ω}
    (acknowledged : Store.Acknowledges world (piecesOf peer.config.batchWidth
      (peer.config.store.numbered peer.counter.next
        ((peer.sharedClauses source).map Record.encode))) last) (units : Nat) :
    peer.publishClauses source { units, connected := true } world =
      (.ok (), { peer.fullReport source with units },
        { peer with
          counter := peer.counter.advance (peer.sharedClauses source).length
          outbox := { peer.outbox with clauses := [] }
          tally := { peer.tally with
            clausesPublished := peer.tally.clausesPublished + (peer.fullReport source).clauses
            clausesSkipped := peer.tally.clausesSkipped + (peer.fullReport source).skipped } },
        last) := by
  have written := Publish.clauseBatches_of_acknowledges shareable [] positive
    (peer.outset { units, connected := true }) room acknowledged
  have all := (Publish.processed_clauseBatches _ _ _ _ _ written).trans (Nat.zero_add _)
  rw [publishClauses, written]
  simp only [withProgress, Outbox.drainClauses, all, ↓reduceIte]
  simp only [PublishProgress.afterClauses, PublishProgress.countClauses,
    PublishProgress.tallySkipped, outset, List.length_nil, Nat.zero_add]
  rfl

theorem publishQueued_of_acknowledges (positive : 0 < peer.config.batchWidth)
    (shareable : ∀ key ∈ peer.outbox.clauses, Publish.Shareable source key)
    (room : peer.outbox.units.length + (peer.sharedClauses source).length ≤
      peer.counter.remaining) {world last : ω}
    (acknowledged : Store.Acknowledges world (peer.batches source) last) :
    peer.publishQueued source world =
      (.ok (peer.fullReport source), peer.relieved source, last) := by
  obtain ⟨middle, units, clauses⟩ := Store.acknowledges_append.mp acknowledged
  have unitRoom : peer.outbox.units.length ≤ peer.counter.remaining := by omega
  have unitsDone := publishUnits_of_acknowledges positive unitRoom units
  rw [clauseWrites, ← IdCounter.next_advance unitRoom] at clauses
  have clauseRoom : (peer.sharedClauses source).length ≤
      (peer.counter.advance peer.outbox.units.length).remaining := by
    rw [IdCounter.remaining_advance unitRoom]
    omega
  have clausesDone := publishClauses_of_acknowledges peer.withoutUnits positive shareable
    clauseRoom clauses peer.outbox.units.length
  rw [publishQueued, if_neg (Nat.ne_of_gt positive), unitsDone]
  dsimp only
  rw [clausesDone]
  simp only [withoutUnits, IdCounter.advance_advance]
  rfl

/-- A publication connects, does what it does over the open connection, and releases it. -/
theorem publish_of_queued (waiting : peer.outbox.isEmpty = false) {world connected last : ω}
    (connects : Store.connect world = (.ok (), connected)) {outcome : Except Fault PublishReport}
    {after : Peer κ} (queued : peer.publishQueued source connected = (outcome, after, last)) :
    peer.publish source world = (outcome, after, Store.release last) := by
  rw [publish, if_neg (by rw [waiting]; exact Bool.false_ne_true), connects]
  dsimp only
  rw [queued]

/-- All that waits is published, where the store acknowledges it. -/
theorem publish_of_acknowledges (waiting : peer.outbox.isEmpty = false)
    (positive : 0 < peer.config.batchWidth)
    (shareable : ∀ key ∈ peer.outbox.clauses, Publish.Shareable source key)
    (room : peer.outbox.units.length + (peer.sharedClauses source).length ≤
      peer.counter.remaining) {world connected last : ω}
    (connects : Store.connect world = (.ok (), connected))
    (acknowledged : Store.Acknowledges connected (peer.batches source) last) :
    peer.publish source world =
      (.ok (peer.fullReport source), peer.relieved source, Store.release last) :=
  publish_of_queued waiting connects
    (publishQueued_of_acknowledges positive shareable room acknowledged)

theorem unitWrites_append_clauseWrites :
    peer.unitWrites ++ peer.clauseWrites source =
      peer.config.store.numbered peer.counter.next
        (peer.outbox.units.map Record.encodeUnit ++
          (peer.sharedClauses source).map Record.encode) := by
  rw [StoreSettings.numbered_append, List.length_map]
  rfl

/-- **Publishing is exact.** Let every queued clause be live and plural, and let enough identifiers
be left. If nothing waits, nothing is done. Otherwise, where the store can be connected to and
acknowledges what it is given, it is connected to once and given the units and then the clauses that
are not too long, cut into batches of the greatest width, and the records are numbered through from
the next identifier. All of this is counted, and nothing waits any more. -/
theorem publish_exact {before : Logged κ ω} {connected written : ω}
    (positive : 0 < peer.config.batchWidth)
    (shareable : ∀ key ∈ peer.outbox.clauses, Publish.Shareable source key)
    (room : peer.outbox.units.length + (peer.sharedClauses source).length ≤
      peer.counter.remaining)
    (connects : Store.connect before.world = (.ok (), connected))
    (acknowledged : Store.Acknowledges connected (peer.batches source) written) :
    (peer.outbox.isEmpty = true → peer.publish source before = (.ok {}, peer, before)) ∧
    (peer.outbox.isEmpty = false → ∃ report after last unitBatches clauseBatches,
      peer.publish source before = (.ok report, after, last) ∧
      last.world = Store.release written ∧
      last.calls.toList = before.calls.toList ++ [.connect] ++
        (unitBatches ++ clauseBatches).map .writeBatch ++ [.release] ∧
      CutInto peer.config.batchWidth peer.unitWrites unitBatches ∧
      CutInto peer.config.batchWidth (peer.clauseWrites source) clauseBatches ∧
      peer.unitWrites ++ peer.clauseWrites source =
        peer.config.store.numbered peer.counter.next
          (peer.outbox.units.map Record.encodeUnit ++
            (peer.sharedClauses source).map Record.encode) ∧
      report = {
        units := peer.outbox.units.length
        clauses := (peer.sharedClauses source).length
        skipped := peer.outbox.clauses.length - (peer.sharedClauses source).length
        connected := true } ∧
      after.config = peer.config ∧ after.outbox = {} ∧
      after.counter.next =
        peer.counter.next + peer.outbox.units.length + (peer.sharedClauses source).length ∧
      after.tally = { peer.tally with
        unitsPublished := peer.tally.unitsPublished + report.units
        clausesPublished := peer.tally.clausesPublished + report.clauses
        clausesSkipped := peer.tally.clausesSkipped + report.skipped }) := by
  constructor
  · intro empty
    exact if_pos empty
  · intro waiting
    have logs := Logged.connect_of_connect connects
    have done := publish_of_acknowledges waiting positive shareable room logs
      (acknowledged.logged (before.calls.push .connect))
    refine ⟨_, _, _, piecesOf peer.config.batchWidth peer.unitWrites,
      piecesOf peer.config.batchWidth (peer.clauseWrites source), done, rfl, ?_,
      cutInto_piecesOf positive _, cutInto_piecesOf positive _, unitWrites_append_clauseWrites, rfl,
      rfl, rfl, ?_, rfl⟩
    · exact Logged.toList_visit before.calls (peer.batches source) written
    · rw [Nat.add_assoc, relieved, IdCounter.next_advance room]

/-- A peer with three units and three clauses. -/
def crowded (config : Config) : Peer Nat where
  config := config
  counter := .startingAt 7
  outbox := { units := [⟨0, true⟩, ⟨1, false⟩, ⟨2, true⟩], clauses := [0, 1, 2] }

/-- The clauses of a crowded peer, the second of which has three literals. -/
def crowdedSource (key : Nat) : Option Clause :=
  [[⟨3, true⟩, ⟨4, false⟩], [⟨3, true⟩, ⟨4, false⟩, ⟨5, true⟩], [⟨5, false⟩, ⟨3, false⟩]][key]?

theorem shareable_crowdedSource (config : Config) :
    ∀ key ∈ (crowded config).outbox.clauses, Publish.Shareable crowdedSource key := by
  intro key inside
  have three : key ∈ [0, 1, 2] := inside
  simp only [List.mem_cons, List.not_mem_nil, or_false] at three
  rcases three with rfl | rfl | rfl
  · exact ⟨_, rfl, by decide⟩
  · exact ⟨_, rfl, by decide⟩
  · exact ⟨_, rfl, by decide⟩

theorem publish_exact_crowded :
    ∃ config : Config, config.batchWidth = 2 ∧ config.maxLength = 2 ∧ ∃ report after last,
      (crowded config).publish crowdedSource ({ world := {} } : Logged Nat LocalStore) =
        (.ok report, after, last) ∧
      report = { units := 3, clauses := 2, skipped := 1, connected := true } ∧
      after.counter.next = 12 ∧ after.outbox = {} := by
  let config : Config := { publishing := {
    batchWidth := ⟨"batch_width", ⟨1, by decide, by decide⟩, ⟨65536, by decide, by decide⟩,
      ⟨2, by decide, by decide⟩⟩
    maxLength := ⟨"max_clause_length", ⟨2, by decide, by decide⟩,
      ⟨18446744073709551615, by decide, by decide⟩, ⟨2, by decide, by decide⟩⟩ } }
  let connected : LocalStore := { use := { opened := 1, held := 1 } }
  have faultless : connected.Faultless := ⟨rfl, rfl, rfl⟩
  obtain ⟨written, acknowledged, -⟩ :=
    LocalStore.acknowledges faultless ((crowded config).batches crowdedSource)
  let before : Logged Nat LocalStore := { world := {} }
  have connects : Store.connect before.world = (.ok (), connected) := rfl
  obtain ⟨-, published⟩ :=
    publish_exact (by decide) (shareable_crowdedSource config) (by decide) connects acknowledged
  obtain ⟨report, after, last, _, _, done, -, -, -, -, -, rfl, -, outbox, next, -⟩ := published rfl
  exact ⟨config, rfl, rfl, _, after, last, done, rfl, next, outbox⟩

end Peer

end ClauseSharing
