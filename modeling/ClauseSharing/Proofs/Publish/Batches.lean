import ClauseSharing.Proofs.Publish.Pieces
import ClauseSharing.Proofs.Store.Writing

/-! # What is written where every batch is acknowledged

Units are cut into batches beforehand, while clauses are gathered until a batch is full and those
too long are left out on the way. Where the store acknowledges every batch and enough identifiers
are left, either way writes the texts that are to be published, numbered through and cut into pieces
of the greatest width (`Publish.unitBatches_of_acknowledges`,
`Publish.clauseBatches_of_acknowledges`). -/

namespace ClauseSharing

variable {ω κ : Type} [Store ω]

namespace PublishProgress

variable (progress : PublishProgress)

/-- After so many more units were written, each under an identifier of its own. -/
def afterUnits (count : Nat) : PublishProgress :=
  { progress.countUnits count with counter := progress.counter.advance count }

/-- After so many more clauses took an identifier, were written and were left out. -/
def afterClauses (taken written skipped : Nat) : PublishProgress where
  counter := progress.counter.advance taken
  tally := (progress.countClauses written).tally
  report := { (progress.countClauses written).report with
    skipped := progress.report.skipped + skipped }
  processed := progress.processed + (taken + skipped)

theorem afterUnits_afterUnits (first second : Nat) :
    (progress.afterUnits first).afterUnits second = progress.afterUnits (first + second) := by
  simp only [afterUnits, countUnits, IdCounter.advance_advance, Nat.add_assoc]

@[simp] theorem afterUnits_zero : progress.afterUnits 0 = progress := by
  simp only [afterUnits, countUnits, IdCounter.advance_zero, Nat.add_zero]

theorem afterClauses_afterClauses (taken written skipped taken' written' skipped' : Nat) :
    (progress.afterClauses taken written skipped).afterClauses taken' written' skipped' =
      progress.afterClauses (taken + taken') (written + written') (skipped + skipped') := by
  have processed : progress.processed + (taken + skipped) + (taken' + skipped') =
      progress.processed + (taken + taken' + (skipped + skipped')) := by omega
  simp only [afterClauses, countClauses, IdCounter.advance_advance, processed]
  simp only [Nat.add_assoc]

theorem countClauses_eq (written : Nat) :
    progress.countClauses written = progress.afterClauses 0 written 0 := by
  simp only [afterClauses, countClauses, IdCounter.advance_zero, Nat.add_zero]

theorem countSkipped_countProcessed :
    progress.countProcessed.countSkipped = progress.afterClauses 0 0 1 := by
  simp only [afterClauses, countClauses, countSkipped, countProcessed, IdCounter.advance_zero,
    Nat.add_zero, Nat.zero_add]

theorem advance_countProcessed :
    { progress.countProcessed with counter := progress.counter.advance 1 } =
      progress.afterClauses 1 0 0 := by
  simp only [afterClauses, countClauses, countProcessed, Nat.add_zero]

end PublishProgress

namespace Publish

open Store

variable {config : Config}

theorem zipWith_range'_eq_numbered (settings : StoreSettings) (first : Nat)
    (units : List Literal) :
    List.zipWith (fun identifier literal =>
        (settings.recordKey identifier, Record.encodeUnit literal))
      (List.range' first units.length) units =
      settings.numbered first (units.map Record.encodeUnit) := by
  induction units generalizing first with
  | nil => rfl
  | cons literal rest ih =>
    rw [List.length_cons, List.range'_succ, List.zipWith_cons_cons, ih, List.map_cons,
      StoreSettings.numbered_cons]

/-- A batch of units for which there are identifiers is written, and the others go on behind it. -/
theorem unitBatches_cons_of_written {batch : List Literal} {progress : PublishProgress}
    (enough : batch.length ≤ progress.counter.remaining) {world next : ω}
    (written : writeBatch (config.store.numbered progress.counter.next
      (batch.map Record.encodeUnit)) world = (.ok (), next)) (batches : List (List Literal)) :
    unitBatches config (batch :: batches) progress world =
      unitBatches config batches (progress.afterUnits batch.length) next := by
  rw [unitBatches, IdCounter.takeMany?_of_le enough]
  dsimp only
  rw [zipWith_range'_eq_numbered, written]
  rfl

/-- Units are written numbered through and cut into pieces. -/
theorem unitBatches_of_acknowledges (positive : 0 < config.batchWidth) (units : List Literal)
    (progress : PublishProgress) (room : units.length ≤ progress.counter.remaining)
    {world last : ω}
    (acknowledged : Acknowledges world (piecesOf config.batchWidth
      (config.store.numbered progress.counter.next (units.map Record.encodeUnit))) last) :
    unitBatches config (piecesOf config.batchWidth units) progress world =
      (.ok (), progress.afterUnits units.length, last) := by
  induction units using cutting_induction positive generalizing progress world with
  | empty =>
    rw [List.map_nil, StoreSettings.numbered_nil, piecesOf_nil] at acknowledged
    cases acknowledged
    rw [piecesOf_nil, unitBatches, List.length_nil, PublishProgress.afterUnits_zero]
  | cut units nonempty ih =>
    let batch := units.take config.batchWidth
    have sizes : batch.length + (units.drop config.batchWidth).length = units.length := by
      rw [← List.length_append, List.take_append_drop]
    have enough : batch.length ≤ progress.counter.remaining := by omega
    have texts :
        config.store.numbered progress.counter.next (units.map Record.encodeUnit) ≠ [] := by
      rw [ne_eq, ← List.length_eq_zero_iff, StoreSettings.length_numbered, List.length_map,
        List.length_eq_zero_iff]
      exact nonempty
    rw [piecesOf_of_ne_nil positive texts, StoreSettings.take_numbered,
      StoreSettings.drop_numbered, ← List.map_take, ← List.map_drop, List.length_map,
      ← IdCounter.next_advance enough] at acknowledged
    cases acknowledged with
    | batch written others =>
      have left : (units.drop config.batchWidth).length ≤
          (progress.afterUnits batch.length).counter.remaining := by
        rw [PublishProgress.afterUnits, IdCounter.remaining_advance enough]
        omega
      rw [piecesOf_of_ne_nil positive nonempty, unitBatches_cons_of_written enough written,
        ih (progress.afterUnits batch.length) left others,
        PublishProgress.afterUnits_afterUnits, sizes]

/-- Whether a queued clause is live and has two literals or more. -/
def Shareable (source : κ → Option Clause) (key : κ) : Prop :=
  ∃ clause, source key = some clause ∧ 2 ≤ clause.length

/-- The clauses under the keys that are not too long. -/
def shared (config : Config) (source : κ → Option Clause) (keys : List κ) : List Clause :=
  (keys.filterMap source).filter fun clause => clause.length ≤ config.maxLength

theorem processed_writeClauses (batch : List Write) (progress : PublishProgress) (world : ω) :
    (writeClauses batch progress world).2.1.processed = progress.processed := by
  rw [writeClauses]
  split
  · rfl
  · cases writeBatch batch world with
    | mk outcome next => cases outcome <;> rfl

/-- **Where clauses come to a good end, all of them have been looked at**, whatever the store
answers. -/
theorem processed_clauseBatches (config : Config) (source : κ → Option Clause) (keys : List κ)
    (batch : List Write) (progress : PublishProgress) {world : ω}
    {after : PublishProgress} {last : ω}
    (done : clauseBatches config source keys batch progress world = (.ok (), after, last)) :
    after.processed = progress.processed + keys.length := by
  induction keys generalizing batch progress world with
  | nil =>
    have kept := processed_writeClauses batch progress world
    rw [clauseBatches] at done
    generalize writeClauses batch progress world = answer at kept done
    obtain ⟨outcome, reached, next⟩ := answer
    cases outcome with
    | error reason => cases done
    | ok _ =>
      cases done
      exact kept
  | cons key keys ih =>
    have counted : progress.countProcessed.processed + keys.length =
        progress.processed + (key :: keys).length := Nat.add_right_comm ..
    rw [clauseBatches] at done
    rw [← counted]
    cases found : source key with
    | none =>
      rw [found] at done
      cases done
    | some clause =>
      rw [found] at done
      dsimp only at done
      split at done
      · cases done
      · split at done
        · exact ih batch progress.countProcessed.countSkipped done
        · split at done
          · -- Without an identifier there is no good end.
            generalize writeClauses batch progress.countProcessed world = answer at done
            obtain ⟨outcome, reached, next⟩ := answer
            cases outcome <;> cases done
          · rename_i identifier counter taken
            split at done
            · have kept := processed_writeClauses
                (batch ++ [(config.store.recordKey identifier, Record.encode clause)])
                { progress.countProcessed with counter } world
              generalize writeClauses _ _ world = answer at kept done
              obtain ⟨outcome, reached, next⟩ := answer
              cases outcome with
              | error reason => cases done
              | ok _ => exact (ih [] reached done).trans (congrArg (· + keys.length) kept)
            · exact ih _ { progress.countProcessed with counter } done

/-- What is left to be written is written at once, if there is any of it. -/
theorem writeClauses_of_acknowledges {batch : List Write}
    (narrow : batch.length < config.batchWidth) {progress : PublishProgress} {world last : ω}
    (acknowledged : Acknowledges world (piecesOf config.batchWidth batch) last) :
    writeClauses batch progress world = (.ok (), progress.countClauses batch.length, last) := by
  cases batch with
  | nil =>
    rw [piecesOf_nil] at acknowledged
    cases acknowledged
    rfl
  | cons pair rest =>
    rw [piecesOf_of_length_le (Nat.zero_lt_of_lt narrow) (List.cons_ne_nil _ _)
      (Nat.le_of_lt narrow)] at acknowledged
    cases acknowledged with
    | batch written others =>
      cases others
      rw [writeClauses, List.isEmpty_cons, if_neg Bool.false_ne_true, written]

section

variable {source : κ → Option Clause} {key : κ} {clause : Clause} (found : source key = some clause)
include found

theorem shared_cons_of_long (long : config.maxLength < clause.length) (keys : List κ) :
    shared config source (key :: keys) = shared config source keys := by
  have refused : ¬decide (clause.length ≤ config.maxLength) = true := by
    rw [decide_eq_true_iff]
    omega
  rw [shared, List.filterMap_cons_some found, List.filter_cons, if_neg refused, shared]

theorem shared_cons_of_short (short : ¬config.maxLength < clause.length) (keys : List κ) :
    shared config source (key :: keys) = clause :: shared config source keys := by
  have accepted : decide (clause.length ≤ config.maxLength) = true := by
    rw [decide_eq_true_iff]
    omega
  rw [shared, List.filterMap_cons_some found, List.filter_cons, if_pos accepted, shared]

theorem clauseBatches_cons_of_long (plural : 2 ≤ clause.length)
    (long : config.maxLength < clause.length) (keys : List κ) (batch : List Write)
    (progress : PublishProgress) (world : ω) :
    clauseBatches config source (key :: keys) batch progress world =
      clauseBatches config source keys batch (progress.afterClauses 0 0 1) world := by
  rw [clauseBatches, found]
  dsimp only
  rw [if_neg (by omega), if_pos long, progress.countSkipped_countProcessed]

theorem clauseBatches_cons_of_short (plural : 2 ≤ clause.length)
    (short : ¬config.maxLength < clause.length) (keys : List κ) (batch : List Write)
    {progress : PublishProgress} (enough : 1 ≤ progress.counter.remaining) (world : ω) :
    clauseBatches config source (key :: keys) batch progress world =
      let gathered := batch ++
        [(config.store.recordKey progress.counter.next, Record.encode clause)]
      if gathered.length = config.batchWidth then
        match writeClauses gathered (progress.afterClauses 1 0 0) world with
        | (.error reason, progress, world) => (.error reason, progress, world)
        | (.ok (), progress, world) => clauseBatches config source keys [] progress world
      else clauseBatches config source keys gathered (progress.afterClauses 1 0 0) world := by
  rw [clauseBatches, found]
  dsimp only
  rw [if_neg (by omega), if_neg short]
  have taken : progress.countProcessed.counter.take? =
      some (progress.counter.next, progress.counter.advance 1) :=
    IdCounter.take?_of_le enough
  rw [taken]
  exact progress.advance_countProcessed ▸ rfl

end

/-- A clause that is not too long and finds an identifier joins the batch, which is written if it is
full. Behind it the other clauses go on, and what is acknowledged of all is acknowledged of
these. -/
theorem clauseBatches_cons_of_acknowledges {source : κ → Option Clause} {key : κ} {clause : Clause}
    (found : source key = some clause) (plural : 2 ≤ clause.length)
    (short : ¬config.maxLength < clause.length) (keys : List κ) {batch : List Write}
    (narrow : batch.length < config.batchWidth) {progress : PublishProgress}
    (enough : 1 ≤ progress.counter.remaining) {writes : List Write} {world last : ω}
    (acknowledged : Acknowledges world (piecesOf config.batchWidth (batch ++
      (config.store.recordKey progress.counter.next, Record.encode clause) :: writes)) last) :
    ∃ (waiting : List Write) (written : Nat) (next : ω), waiting.length < config.batchWidth ∧
      written + waiting.length = batch.length + 1 ∧
      Acknowledges next (piecesOf config.batchWidth (waiting ++ writes)) last ∧
      clauseBatches config source (key :: keys) batch progress world =
        clauseBatches config source keys waiting (progress.afterClauses 1 written 0) next := by
  rw [List.append_cons] at acknowledged
  rw [clauseBatches_cons_of_short found plural short keys batch enough]
  generalize gathering : batch ++ [(config.store.recordKey progress.counter.next,
    Record.encode clause)] = gathered at acknowledged ⊢
  have longer : gathered.length = batch.length + 1 := by
    rw [← gathering, List.length_append, List.length_singleton]
  dsimp only
  by_cases full : gathered.length = config.batchWidth
  · -- The batch is full: it is written, and the next one starts empty.
    rw [piecesOf_append (Nat.zero_lt_of_lt narrow) full] at acknowledged
    cases acknowledged with
    | @batch _ next _ _ _ written later =>
      have nonempty : ¬gathered.isEmpty = true := by
        rw [List.isEmpty_iff_length_eq_zero]
        omega
      refine ⟨[], gathered.length, next, Nat.zero_lt_of_lt narrow, longer, later, ?_⟩
      rw [if_pos full, writeClauses, if_neg nonempty, written]
      dsimp only
      rw [PublishProgress.countClauses_eq, PublishProgress.afterClauses_afterClauses, Nat.zero_add]
  · have shorter : gathered.length < config.batchWidth := by omega
    refine ⟨gathered, 0, world, shorter, ?_, acknowledged, ?_⟩
    · rw [longer, Nat.zero_add]
    · rw [if_neg full]

theorem length_shared_le (config : Config) (source : κ → Option Clause) (keys : List κ) :
    (shared config source keys).length ≤ keys.length :=
  Nat.le_trans (List.length_filter_le ..) (List.length_filterMap_le ..)

/-- Clauses are written numbered through and cut into pieces, behind those that wait in the batch
already. -/
theorem clauseBatches_of_acknowledges {source : κ → Option Clause} {keys : List κ}
    (shareable : ∀ key ∈ keys, Shareable source key) (batch : List Write)
    (narrow : batch.length < config.batchWidth) (progress : PublishProgress)
    (room : (shared config source keys).length ≤ progress.counter.remaining) {world last : ω}
    (acknowledged : Acknowledges world (piecesOf config.batchWidth (batch ++
      config.store.numbered progress.counter.next
        ((shared config source keys).map Record.encode))) last) :
    clauseBatches config source keys batch progress world =
      (.ok (), (progress.afterClauses (shared config source keys).length
          (batch.length + (shared config source keys).length)
          (keys.length - (shared config source keys).length)).tallySkipped, last) := by
  induction keys generalizing batch progress world with
  | nil =>
    have nothing : shared config source [] = [] := rfl
    rw [nothing, List.map_nil, StoreSettings.numbered_nil, List.append_nil] at acknowledged
    rw [clauseBatches, writeClauses_of_acknowledges narrow acknowledged, nothing,
      PublishProgress.countClauses_eq]
    rfl
  | cons key keys ih =>
    obtain ⟨⟨clause, found, plural⟩, others⟩ := List.forall_mem_cons.mp shareable
    have fewer := length_shared_le config source keys
    by_cases long : config.maxLength < clause.length
    · rw [shared_cons_of_long found long] at room acknowledged ⊢
      have same : (progress.afterClauses 0 0 1).counter = progress.counter :=
        progress.counter.advance_zero
      have rest := ih others batch narrow (progress.afterClauses 0 0 1)
        (by rwa [same]) (by rwa [same])
      rw [clauseBatches_cons_of_long found plural long, rest,
        PublishProgress.afterClauses_afterClauses, Nat.zero_add, Nat.zero_add, List.length_cons,
        Nat.succ_sub fewer, Nat.add_comm 1]
    · rw [shared_cons_of_short found long, List.length_cons] at room
      have enough : 1 ≤ progress.counter.remaining := by omega
      rw [shared_cons_of_short found long, List.map_cons, StoreSettings.numbered_cons,
        ← IdCounter.next_advance enough] at acknowledged
      obtain ⟨waiting, written, next, fits, gathered, later, joined⟩ :=
        clauseBatches_cons_of_acknowledges found plural long keys narrow enough acknowledged
      have left : (shared config source keys).length ≤
          (progress.afterClauses 1 written 0).counter.remaining := by
        rw [PublishProgress.afterClauses, IdCounter.remaining_advance enough]
        omega
      have total : written + (waiting.length + (shared config source keys).length) =
          batch.length + ((shared config source keys).length + 1) := by omega
      rw [shared_cons_of_short found long, joined, ih others waiting fits _ left later,
        PublishProgress.afterClauses_afterClauses, total, Nat.zero_add, List.length_cons,
        List.length_cons, Nat.add_sub_add_right, Nat.add_comm 1]

end Publish

end ClauseSharing
