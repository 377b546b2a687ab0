import ClauseSharing.Proofs.Publish.Batches

/-! # Which clauses a publication can be blamed on

A publication that comes to a key under which there is no clause, or one of fewer than two literals,
fails for it. Where every queued clause is live and plural it fails for neither, whatever the store
does (`Peer.publish_blameless`). -/

namespace ClauseSharing

variable {ω κ α : Type}

/-- Whether an outcome is not blamed on a queued clause. -/
structure Blameless (outcome : Except Fault α) : Prop where
  plural : outcome ≠ .error (.publishing .shortClause)
  live : outcome ≠ .error (.publishing .removedClause)

namespace Blameless

theorem ok (value : α) : Blameless (.ok value : Except Fault α) := ⟨nofun, nofun⟩

theorem store (reason : StoreError) : Blameless (.error (.store reason) : Except Fault α) :=
  ⟨nofun, nofun⟩

theorem record (reason : Record.ReadError) : Blameless (.error (.record reason) : Except Fault α) :=
  ⟨nofun, nofun⟩

theorem publishing {reason : PublishError} (plural : reason ≠ .shortClause)
    (live : reason ≠ .removedClause) :
    Blameless (.error (.publishing reason) : Except Fault α) := by
  refine ⟨fun same => plural ?_, fun same => live ?_⟩
  · cases same
    rfl
  · cases same
    rfl

/-- A fault is not blamed on a clause whatever else could have come of the operation. -/
theorem error {β : Type} {fault : Fault} (blameless : Blameless (.error fault : Except Fault α)) :
    Blameless (.error fault : Except Fault β) := by
  refine ⟨fun same => blameless.plural ?_, fun same => blameless.live ?_⟩
  · cases same
    rfl
  · cases same
    rfl

end Blameless

variable [Store ω] {source : κ → Option Clause}

namespace Publish

theorem unitBatches_blameless (config : Config) (batches : List (List Literal))
    (progress : PublishProgress) (world : ω) :
    Blameless (unitBatches config batches progress world).1 := by
  induction batches generalizing progress world with
  | nil => exact .ok ()
  | cons batch batches ih =>
    rw [unitBatches]
    cases progress.counter.takeMany? batch.length with
    | none => exact .publishing (by decide) (by decide)
    | some taken =>
      dsimp only
      generalize Store.writeBatch _ world = answer
      obtain ⟨outcome, next⟩ := answer
      cases outcome with
      | error reason => exact .store reason
      | ok _ => exact ih _ next

theorem writeClauses_blameless (batch : List Write) (progress : PublishProgress) (world : ω) :
    Blameless (writeClauses batch progress world).1 := by
  rw [writeClauses]
  split
  · exact .ok ()
  · generalize Store.writeBatch batch world = answer
    obtain ⟨outcome, next⟩ := answer
    cases outcome with
    | error reason => exact .store reason
    | ok _ => exact .ok ()

theorem clauseBatches_blameless (config : Config) {keys : List κ}
    (shareable : ∀ key ∈ keys, Shareable source key) (batch : List Write)
    (progress : PublishProgress) (world : ω) :
    Blameless (clauseBatches config source keys batch progress world).1 := by
  induction keys generalizing batch progress world with
  | nil =>
    have written := writeClauses_blameless batch progress world
    rw [clauseBatches]
    generalize writeClauses batch progress world = answer at written ⊢
    obtain ⟨outcome, reached, next⟩ := answer
    cases outcome with
    | error reason => exact written
    | ok _ => exact .ok ()
  | cons key keys ih =>
    obtain ⟨⟨clause, found, plural⟩, others⟩ := List.forall_mem_cons.mp shareable
    by_cases long : config.maxLength < clause.length
    · rw [clauseBatches_cons_of_long found plural long]
      exact ih others _ _ _
    · rw [clauseBatches, found]
      generalize progress.countProcessed = progress
      dsimp only
      rw [if_neg (by omega), if_neg long]
      cases progress.counter.take? with
      | none =>
        have written := writeClauses_blameless batch progress world
        dsimp only
        generalize writeClauses batch progress world = answer at written ⊢
        obtain ⟨outcome, reached, next⟩ := answer
        cases outcome with
        | error reason => exact written
        | ok _ => exact .publishing (by decide) (by decide)
      | some taken =>
        dsimp only
        split
        · have written := writeClauses_blameless
            (batch ++ [(config.store.recordKey taken.1, Record.encode clause)])
            { progress with counter := taken.2 } world
          generalize writeClauses _ { progress with counter := taken.2 } world = answer at written ⊢
          obtain ⟨outcome, reached, next⟩ := answer
          cases outcome with
          | error reason => exact written
          | ok _ => exact ih others _ _ _
        · exact ih others _ _ _

end Publish

namespace Peer

variable {peer : Peer κ}

/-- Writing units is blamed on no clause, and leaves those that wait. -/
theorem publishUnits_blameless (peer : Peer κ) (report : PublishReport) (world : ω) :
    Blameless (peer.publishUnits report world).1 ∧
      (peer.publishUnits report world).2.2.1.outbox.clauses = peer.outbox.clauses := by
  have written := Publish.unitBatches_blameless peer.config
    (piecesOf peer.config.batchWidth peer.outbox.units) (peer.outset report) world
  rw [publishUnits]
  generalize Publish.unitBatches peer.config _ _ world = answer at written ⊢
  obtain ⟨outcome, progress, next⟩ := answer
  cases outcome with
  | error reason => exact ⟨written, rfl⟩
  | ok _ =>
    dsimp only
    rw [Outbox.drainUnits]
    by_cases whole : progress.report.units = (peer.withProgress progress).outbox.units.length
    · rw [if_pos whole]
      exact ⟨.ok (), rfl⟩
    · rw [if_neg whole]
      exact ⟨.publishing (by decide) (by decide), rfl⟩

theorem publishClauses_blameless
    (shareable : ∀ key ∈ peer.outbox.clauses, Publish.Shareable source key) (report : PublishReport)
    (world : ω) : Blameless (peer.publishClauses source report world).1 := by
  have written :=
    Publish.clauseBatches_blameless peer.config shareable [] (peer.outset report) world
  rw [publishClauses]
  generalize done : Publish.clauseBatches peer.config source _ [] _ world = answer at written ⊢
  obtain ⟨outcome, progress, next⟩ := answer
  cases outcome with
  | error reason => exact written
  | ok _ =>
    have all : progress.processed = peer.outbox.clauses.length :=
      (Publish.processed_clauseBatches _ _ _ _ _ done).trans (Nat.zero_add _)
    have drained : (peer.withProgress progress).outbox.drainClauses progress.processed =
        .ok { peer.outbox with clauses := [] } := if_pos all
    simp only [drained]
    exact .ok ()

/-- **Where every queued clause is live and plural, none is to blame**, whatever the store does. -/
theorem publish_blameless (shareable : ∀ key ∈ peer.outbox.clauses, Publish.Shareable source key)
    (world : ω) : Blameless (peer.publish source world).1 := by
  rw [publish]
  split
  · exact .ok _
  · generalize Store.connect world = answer
    obtain ⟨outcome, connected⟩ := answer
    cases outcome with
    | error reason => exact .store reason
    | ok _ =>
      dsimp only
      rw [publishQueued]
      split
      · exact .publishing (by decide) (by decide)
      · obtain ⟨units, kept⟩ := peer.publishUnits_blameless { connected := true } connected
        generalize peer.publishUnits { connected := true } connected = answer at units kept ⊢
        obtain ⟨outcome, report, middle, reached⟩ := answer
        cases outcome with
        | error reason => exact units.error
        | ok _ =>
          rw [← kept] at shareable
          have clauses := publishClauses_blameless shareable report reached
          dsimp only at clauses ⊢
          generalize middle.publishClauses source report reached = answer at clauses ⊢
          obtain ⟨outcome, report, last, final⟩ := answer
          cases outcome with
          | error reason => exact clauses.error
          | ok _ => exact .ok _

end Peer

end ClauseSharing
