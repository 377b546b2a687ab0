import ClauseSharing.Proofs.Publish.Exact

/-! # Running out of identifiers

Where fewer identifiers are left than units wait, as many units are written as fill whole batches
for which there are enough (`Publish.unitBatches_of_exhausted`). Where the identifiers suffice for
the units but not for the clauses, each one that is left goes to a clause, and the last batch may be
a partial one (`Publish.clauseBatches_of_exhausted`). So it is known to the last record what a
publication writes that runs out of identifiers, and when it does (`Peer.publish_exhaustion`). -/

namespace ClauseSharing

variable {ω κ : Type} [Store ω]

namespace Publish

open Store

variable {config : Config}

/-- How many units go out in whole batches if so many identifiers are left. -/
def inWholeBatches (width remaining : Nat) : Nat := width * (remaining / width)

theorem inWholeBatches_of_le {width remaining : Nat} (positive : 0 < width)
    (fits : width ≤ remaining) :
    inWholeBatches width remaining = width + inWholeBatches width (remaining - width) := by
  rw [inWholeBatches, Nat.div_eq_sub_div positive fits, Nat.mul_add, Nat.mul_one, Nat.add_comm]
  rfl

theorem inWholeBatches_of_lt {width remaining : Nat} (short : remaining < width) :
    inWholeBatches width remaining = 0 := by
  rw [inWholeBatches, Nat.div_eq_of_lt short, Nat.mul_zero]

/-- Units are written in whole batches until too few identifiers are left for the next one. -/
theorem unitBatches_of_exhausted (positive : 0 < config.batchWidth) (units : List Literal)
    (progress : PublishProgress) (short : progress.counter.remaining < units.length)
    {world last : ω}
    (acknowledged : Acknowledges world (piecesOf config.batchWidth
      (config.store.numbered progress.counter.next ((units.take
        (inWholeBatches config.batchWidth progress.counter.remaining)).map
          Record.encodeUnit))) last) :
    unitBatches config (piecesOf config.batchWidth units) progress world =
      (.error (.publishing .identifiersExhausted),
        progress.afterUnits (inWholeBatches config.batchWidth progress.counter.remaining),
          last) := by
  induction units using cutting_induction positive generalizing progress world with
  | empty => exact absurd short (Nat.not_lt_zero _)
  | cut units nonempty ih =>
    let batch := units.take config.batchWidth
    have size : batch.length = min config.batchWidth units.length := List.length_take
    rw [piecesOf_of_ne_nil positive nonempty]
    by_cases fits : config.batchWidth ≤ progress.counter.remaining
    · have whole : batch.length = config.batchWidth := by omega
      have enough : batch.length ≤ progress.counter.remaining := by omega
      have left : (progress.afterUnits batch.length).counter.remaining =
          progress.counter.remaining - config.batchWidth := by
        rw [PublishProgress.afterUnits, IdCounter.remaining_advance enough, whole]
      have fewer : (progress.afterUnits batch.length).counter.remaining <
          (units.drop config.batchWidth).length := by
        rw [left, List.length_drop]
        omega
      have texts : (config.store.numbered progress.counter.next
          (batch.map Record.encodeUnit)).length = config.batchWidth := by
        rw [StoreSettings.length_numbered, List.length_map, whole]
      rw [inWholeBatches_of_le positive fits, List.take_add, List.map_append,
        StoreSettings.numbered_append, piecesOf_append positive texts, List.length_map,
        ← IdCounter.next_advance enough, ← left] at acknowledged
      cases acknowledged with
      | batch written others =>
        rw [unitBatches_cons_of_written enough written,
          ih (progress.afterUnits batch.length) fewer others, PublishProgress.afterUnits_afterUnits,
          left, whole, ← inWholeBatches_of_le positive fits]
    · have lacking : inWholeBatches config.batchWidth progress.counter.remaining = 0 :=
        inWholeBatches_of_lt (Nat.lt_of_not_le fits)
      have refused : progress.counter.takeMany? batch.length = none := if_neg (by omega)
      rw [lacking, List.take_zero, List.map_nil, StoreSettings.numbered_nil,
        piecesOf_nil] at acknowledged
      cases acknowledged
      rw [unitBatches, refused, lacking, PublishProgress.afterUnits_zero]

/-- Each identifier that is left goes to a clause, and those that have one are written. -/
theorem clauseBatches_of_exhausted {source : κ → Option Clause} {keys : List κ}
    (shareable : ∀ key ∈ keys, Shareable source key) (batch : List Write)
    (narrow : batch.length < config.batchWidth) (progress : PublishProgress)
    (short : progress.counter.remaining < (shared config source keys).length) {world last : ω}
    (acknowledged : Acknowledges world (piecesOf config.batchWidth (batch ++
      config.store.numbered progress.counter.next (((shared config source keys).take
        progress.counter.remaining).map Record.encode))) last) :
    ∃ skipped, clauseBatches config source keys batch progress world =
      (.error (.publishing .identifiersExhausted), (progress.afterClauses progress.counter.remaining
        (batch.length + progress.counter.remaining) skipped).countProcessed, last) := by
  induction keys generalizing batch progress world with
  | nil => exact absurd short (Nat.not_lt_zero _)
  | cons key keys ih =>
    obtain ⟨⟨clause, found, plural⟩, others⟩ := List.forall_mem_cons.mp shareable
    by_cases long : config.maxLength < clause.length
    · rw [shared_cons_of_long found long] at short acknowledged
      have same : (progress.afterClauses 0 0 1).counter = progress.counter :=
        progress.counter.advance_zero
      obtain ⟨skipped, rest⟩ := ih others batch narrow (progress.afterClauses 0 0 1)
        (by rwa [same]) (by rwa [same])
      refine ⟨1 + skipped, ?_⟩
      rw [clauseBatches_cons_of_long found plural long, rest, same,
        PublishProgress.afterClauses_afterClauses, Nat.zero_add, Nat.zero_add]
    · rw [shared_cons_of_short found long, List.length_cons] at short
      rw [shared_cons_of_short found long] at acknowledged
      by_cases enough : 1 ≤ progress.counter.remaining
      · obtain ⟨fewer, remaining⟩ := Nat.exists_eq_add_of_le' enough
        rw [remaining, List.take_succ_cons, List.map_cons, StoreSettings.numbered_cons,
          ← IdCounter.next_advance enough] at acknowledged
        obtain ⟨waiting, written, next, fits, gathered, later, joined⟩ :=
          clauseBatches_cons_of_acknowledges found plural long keys narrow enough acknowledged
        have left : (progress.afterClauses 1 written 0).counter.remaining = fewer := by
          rw [PublishProgress.afterClauses, IdCounter.remaining_advance enough, remaining,
            Nat.add_sub_cancel]
        have lacking : (progress.afterClauses 1 written 0).counter.remaining <
            (shared config source keys).length := by
          rw [left]
          omega
        rw [← left] at later
        obtain ⟨skipped, rest⟩ :=
          ih others waiting fits (progress.afterClauses 1 written 0) lacking later
        have total : written + (waiting.length + fewer) = batch.length + (fewer + 1) := by omega
        refine ⟨skipped, ?_⟩
        rw [joined, rest, left, PublishProgress.afterClauses_afterClauses, total, remaining,
          Nat.add_comm 1, Nat.zero_add]
      · have spent : progress.countProcessed.counter.take? = none := if_neg enough
        have zero : progress.counter.remaining = 0 := by omega
        rw [zero, List.take_zero, List.map_nil, StoreSettings.numbered_nil, List.append_nil]
          at acknowledged
        refine ⟨0, ?_⟩
        rw [clauseBatches, found]
        dsimp only
        rw [if_neg (by omega), if_neg long, spent]
        dsimp only
        rw [writeClauses_of_acknowledges narrow acknowledged, PublishProgress.countClauses_eq, zero,
          Nat.add_zero]
        rfl

end Publish

namespace Peer

open Publish (inWholeBatches)

variable {peer : Peer κ} {source : κ → Option Clause} {world connected last : ω}

theorem publishUnits_of_exhausted (positive : 0 < peer.config.batchWidth)
    (short : peer.counter.remaining < peer.outbox.units.length)
    (acknowledged : Store.Acknowledges world (piecesOf peer.config.batchWidth
      (peer.config.store.numbered peer.counter.next ((peer.outbox.units.take
        (inWholeBatches peer.config.batchWidth peer.counter.remaining)).map
          Record.encodeUnit))) last) :
    ∃ report, peer.publishUnits { connected := true } world =
      (.error (.publishing .identifiersExhausted), report,
        { peer with
          counter := peer.counter.advance
            (inWholeBatches peer.config.batchWidth peer.counter.remaining)
          tally := { peer.tally with
            unitsPublished := peer.tally.unitsPublished +
              inWholeBatches peer.config.batchWidth peer.counter.remaining } },
        last) := by
  have written := Publish.unitBatches_of_exhausted positive peer.outbox.units
    (peer.outset { connected := true }) short acknowledged
  rw [publishUnits]
  dsimp only
  rw [written]
  exact ⟨_, rfl⟩

theorem publishClauses_of_exhausted (peer : Peer κ) (positive : 0 < peer.config.batchWidth)
    (shareable : ∀ key ∈ peer.outbox.clauses, Publish.Shareable source key)
    (short : peer.counter.remaining < (peer.sharedClauses source).length)
    (acknowledged : Store.Acknowledges world (piecesOf peer.config.batchWidth
      (peer.config.store.numbered peer.counter.next
        (((peer.sharedClauses source).take peer.counter.remaining).map Record.encode))) last)
    (report : PublishReport) :
    ∃ report', peer.publishClauses source report world =
      (.error (.publishing .identifiersExhausted), report',
        { peer with
          counter := peer.counter.advance peer.counter.remaining
          tally := { peer.tally with
            clausesPublished := peer.tally.clausesPublished + peer.counter.remaining } },
        last) := by
  obtain ⟨skipped, written⟩ := Publish.clauseBatches_of_exhausted shareable [] positive
    (peer.outset report) short acknowledged
  rw [publishClauses]
  dsimp only
  rw [written, List.length_nil, Nat.zero_add]
  exact ⟨_, rfl⟩

/-- Over the open connection: the units do not all find identifiers, and no clause is looked at. -/
theorem publishQueued_of_units_exhausted (source : κ → Option Clause)
    (positive : 0 < peer.config.batchWidth)
    (short : peer.counter.remaining < peer.outbox.units.length)
    (acknowledged : Store.Acknowledges world (piecesOf peer.config.batchWidth
      (peer.config.store.numbered peer.counter.next ((peer.outbox.units.take
        (inWholeBatches peer.config.batchWidth peer.counter.remaining)).map
          Record.encodeUnit))) last) :
    peer.publishQueued source world =
      (.error (.publishing .identifiersExhausted),
        { peer with
          counter := peer.counter.advance
            (inWholeBatches peer.config.batchWidth peer.counter.remaining)
          tally := { peer.tally with
            unitsPublished := peer.tally.unitsPublished +
              inWholeBatches peer.config.batchWidth peer.counter.remaining } },
        last) := by
  obtain ⟨report, stopped⟩ := publishUnits_of_exhausted positive short acknowledged
  rw [publishQueued, if_neg (Nat.ne_of_gt positive), stopped]

/-- Over the open connection: all units are written, and the identifiers that they leave go to
clauses. -/
theorem publishQueued_of_clauses_exhausted (positive : 0 < peer.config.batchWidth)
    (shareable : ∀ key ∈ peer.outbox.clauses, Publish.Shareable source key)
    (room : peer.outbox.units.length ≤ peer.counter.remaining)
    (short : peer.counter.remaining <
      peer.outbox.units.length + (peer.sharedClauses source).length)
    (acknowledged : Store.Acknowledges world (piecesOf peer.config.batchWidth peer.unitWrites ++
      piecesOf peer.config.batchWidth (peer.config.store.numbered
        (peer.counter.next + peer.outbox.units.length) (((peer.sharedClauses source).take
          (peer.counter.remaining - peer.outbox.units.length)).map Record.encode))) last) :
    peer.publishQueued source world =
      (.error (.publishing .identifiersExhausted),
        { peer with
          counter := peer.counter.advance peer.counter.remaining
          outbox := { peer.outbox with units := [] }
          tally := { peer.tally with
            unitsPublished := peer.tally.unitsPublished + peer.outbox.units.length
            clausesPublished := peer.tally.clausesPublished +
              (peer.counter.remaining - peer.outbox.units.length) } },
        last) := by
  obtain ⟨middle, units, clauses⟩ := Store.acknowledges_append.mp acknowledged
  have unitsDone := publishUnits_of_acknowledges positive room units
  have left : peer.withoutUnits.counter.remaining =
      peer.counter.remaining - peer.outbox.units.length := IdCounter.remaining_advance room
  have lacking : peer.withoutUnits.counter.remaining <
      (peer.withoutUnits.sharedClauses source).length := by
    rw [left]
    change _ < (peer.sharedClauses source).length
    omega
  rw [← IdCounter.next_advance room, ← left] at clauses
  obtain ⟨report, stopped⟩ :=
    publishClauses_of_exhausted peer.withoutUnits positive shareable lacking
    clauses { units := peer.outbox.units.length, connected := true }
  have spent : peer.withoutUnits.counter.advance peer.withoutUnits.counter.remaining =
      peer.counter.advance peer.counter.remaining := by
    rw [left, withoutUnits, IdCounter.advance_advance, Nat.add_sub_cancel' room]
  rw [publishQueued, if_neg (Nat.ne_of_gt positive), unitsDone]
  dsimp only
  rw [stopped, spent, left]
  rfl

/-- The counter stands at the number that is never taken once all that was left has been. -/
theorem next_advance_remaining (counter : IdCounter) :
    (counter.advance counter.remaining).next = 4294967295 := by
  have bound := counter.next_le
  rw [IdCounter.next_advance (Nat.le_refl _), IdCounter.remaining, IdCounter.limit]
  omega

omit [Store ω] in
theorem isEmpty_eq_false (source : κ → Option Clause)
    (waiting : 0 < peer.outbox.units.length + (peer.sharedClauses source).length) :
    peer.outbox.isEmpty = false := by
  have fewer : (peer.sharedClauses source).length ≤ peer.outbox.clauses.length :=
    Publish.length_shared_le peer.config source peer.outbox.clauses
  rw [Bool.eq_false_iff, ne_eq, Outbox.isEmpty, Bool.and_eq_true, List.isEmpty_iff_length_eq_zero,
    List.isEmpty_iff_length_eq_zero]
  omega

/-- **It is exact when identifiers run out, and what is written then.** Let every queued clause be
live and plural, and let the store acknowledge whatever it is given. Where fewer identifiers are
left than units wait, those units are written that fill whole batches, and nothing is taken off the
queues. Where they suffice for the units but not for the clauses as well, all units are written and
each identifier left goes to a clause, and the clauses wait on. Otherwise all is published. The
counter moves on by what is written and never past the number that is not taken. -/
theorem publish_exhaustion {before : Logged κ ω} (positive : 0 < peer.config.batchWidth)
    (shareable : ∀ key ∈ peer.outbox.clauses, Publish.Shareable source key)
    (connects : Store.connect before.world = (.ok (), connected))
    (willing : ∀ batches, ∃ last, Store.Acknowledges connected batches last) :
    let units := peer.outbox.units
    let clauses := peer.sharedClauses source
    let width := peer.config.batchWidth
    let remaining := 4294967295 - peer.counter.next
    (remaining < units.length →
      ∃ after last batches,
        peer.publish source before = (.error (.publishing .identifiersExhausted), after, last) ∧
        last.calls.toList = before.calls.toList ++
          [.connect] ++ batches.map .writeBatch ++ [.release] ∧
        CutInto width (peer.config.store.numbered peer.counter.next
          ((units.take (width * (remaining / width))).map Record.encodeUnit)) batches ∧
        after.counter.next = peer.counter.next + width * (remaining / width) ∧
        peer.counter.next + width * (remaining / width) ≤ 4294967295 ∧
        after.outbox = peer.outbox ∧ after.config = peer.config ∧
        after.tally = { peer.tally with
          unitsPublished := peer.tally.unitsPublished + width * (remaining / width) }) ∧
    (units.length ≤ remaining → remaining < units.length + clauses.length →
      ∃ after last unitBatches clauseBatches,
        peer.publish source before = (.error (.publishing .identifiersExhausted), after, last) ∧
        last.calls.toList = before.calls.toList ++ [.connect] ++
          (unitBatches ++ clauseBatches).map .writeBatch ++ [.release] ∧
        CutInto width (peer.config.store.numbered peer.counter.next (units.map Record.encodeUnit))
          unitBatches ∧
        CutInto width (peer.config.store.numbered (peer.counter.next + units.length)
          ((clauses.take (remaining - units.length)).map Record.encode)) clauseBatches ∧
        after.counter.next = 4294967295 ∧
        after.outbox = { peer.outbox with units := [] } ∧ after.config = peer.config ∧
        after.tally = { peer.tally with
          unitsPublished := peer.tally.unitsPublished + units.length
          clausesPublished := peer.tally.clausesPublished + (remaining - units.length) }) ∧
    (units.length + clauses.length ≤ remaining →
      ∃ report after last, peer.publish source before = (.ok report, after, last) ∧
        after.counter.next = peer.counter.next + units.length + clauses.length ∧
        peer.counter.next + units.length + clauses.length ≤ 4294967295) := by
  intro units clauses width remaining
  have logs := Logged.connect_of_connect connects
  have bound := peer.counter.next_le
  refine ⟨fun short => ?_, fun room short => ?_, fun room => ?_⟩
  · obtain ⟨written, acknowledged⟩ := willing (piecesOf width (peer.config.store.numbered
      peer.counter.next ((units.take (width * (remaining / width))).map Record.encodeUnit)))
    have within : width * (remaining / width) ≤ remaining := Nat.mul_div_le remaining width
    have waiting := isEmpty_eq_false source (Nat.add_pos_left (Nat.zero_lt_of_lt short) _)
    have done :=
      publish_of_queued waiting logs (publishQueued_of_units_exhausted source positive short
      (acknowledged.logged (before.calls.push .connect)))
    exact ⟨_, _, _, done, Logged.toList_visit .., cutInto_piecesOf positive _,
      IdCounter.next_advance within, by omega, rfl, rfl, rfl⟩
  · obtain ⟨written, acknowledged⟩ := willing (piecesOf width peer.unitWrites ++
      piecesOf width (peer.config.store.numbered (peer.counter.next + units.length)
        ((clauses.take (remaining - units.length)).map Record.encode)))
    have waiting := isEmpty_eq_false source (Nat.zero_lt_of_lt short)
    have done :=
      publish_of_queued waiting logs (publishQueued_of_clauses_exhausted positive shareable
      room short (acknowledged.logged (before.calls.push .connect)))
    exact ⟨_, _, _, _, done, Logged.toList_visit .., cutInto_piecesOf positive _,
      cutInto_piecesOf positive _, next_advance_remaining peer.counter, rfl, rfl, rfl⟩
  · have total : peer.counter.next + units.length + clauses.length ≤ 4294967295 := by omega
    by_cases waiting : peer.outbox.isEmpty = false
    · obtain ⟨written, acknowledged⟩ := willing (peer.batches source)
      have done := publish_of_acknowledges waiting positive shareable room logs
        (acknowledged.logged (before.calls.push .connect))
      refine ⟨_, _, _, done, ?_, total⟩
      rw [Nat.add_assoc]
      exact IdCounter.next_advance room
    · have none : units.length + clauses.length = 0 :=
        Nat.eq_zero_of_not_pos (mt (isEmpty_eq_false source) waiting)
      refine ⟨_, _, _, if_pos (eq_true_of_ne_false waiting), ?_, total⟩
      rw [Nat.add_assoc, none, Nat.add_zero]

/-- A crowded peer with four identifiers left. -/
def strained (config : Config) : Peer Nat :=
  { crowded config with counter := .startingAt 4294967291 }

theorem publish_exhaustion_strained :
    ∃ config : Config, config.batchWidth = 2 ∧ config.maxLength = 2 ∧ ∃ after last,
      (strained config).publish crowdedSource ({ world := {} } : Logged Nat LocalStore) =
        (.error (.publishing .identifiersExhausted), after, last) ∧
      after.counter.next = 4294967295 ∧ after.outbox = { units := [], clauses := [0, 1, 2] } ∧
      after.tally.unitsPublished = 3 ∧ after.tally.clausesPublished = 1 ∧
      after.tally.clausesSkipped = 0 := by
  let config : Config := { publishing := {
    batchWidth := ⟨"batch_width", ⟨1, by decide, by decide⟩, ⟨65536, by decide, by decide⟩,
      ⟨2, by decide, by decide⟩⟩
    maxLength := ⟨"max_clause_length", ⟨2, by decide, by decide⟩,
      ⟨18446744073709551615, by decide, by decide⟩, ⟨2, by decide, by decide⟩⟩ } }
  let connected : LocalStore := { use := { opened := 1, held := 1 } }
  have faultless : connected.Faultless := ⟨rfl, rfl, rfl⟩
  have willing (batches : List (List Write)) :
      ∃ last, Store.Acknowledges connected batches last := by
    obtain ⟨last, acknowledged, _⟩ := LocalStore.acknowledges faultless batches
    exact ⟨last, acknowledged⟩
  let before : Logged Nat LocalStore := { world := {} }
  have connects : Store.connect before.world = (.ok (), connected) := rfl
  have shareable : ∀ key ∈ (strained config).outbox.clauses, Publish.Shareable crowdedSource key :=
    shareable_crowdedSource config
  obtain ⟨-, exhausted, -⟩ := publish_exhaustion (by decide) shareable connects willing
  obtain ⟨after, last, _, _, done, -, -, -, next, outbox, -, tally⟩ :=
    exhausted (by decide) (by decide)
  exact ⟨config, rfl, rfl, after, last, done, next, outbox,
    by rw [tally]; decide, by rw [tally]; decide,
    by rw [tally]; decide⟩

end Peer

end ClauseSharing
