import ClauseSharing.Proofs.Publish.Batches

/-! # What a publication can do

However a publication ends, all that it does to the store is to connect, to write records of units
that wait and of clauses that the source gives out, and to release the connection. Between the two
it goes on as long as its batches are acknowledged, and a batch that is refused is the last one
(`Peer.publishQueued_sent`). So whatever these commands keep is kept by the publication, and of the
units that waited some may be gone but no others have come (`Peer.publish_keeps`). -/

namespace ClauseSharing

variable {ω κ : Type}

namespace Publish

/-- How writing ends: in a world that is whole, or in a broken one with the refusal of the store. -/
def Sent {α : Type} (whole broken : ω → Prop) (outcome : Except Fault α) (world : ω) : Prop :=
  whole world ∨ (∃ reason, outcome = .error (.store reason)) ∧ broken world

variable {whole broken : ω → Prop}

theorem Sent.whole_of_ok {α : Type} {value : α} {world : ω}
    (sent : Sent whole broken (.ok value) world) : whole world := by
  rcases sent with still | ⟨⟨reason, failed⟩, -⟩
  · exact still
  · cases failed

theorem Sent.error {α β : Type} {reason : Fault} {world : ω}
    (sent : Sent whole broken (.error reason : Except Fault α) world) :
    Sent whole broken (.error reason : Except Fault β) world := by
  rcases sent with still | ⟨⟨_, failed⟩, after⟩
  · exact .inl still
  · cases failed
    exact .inr ⟨⟨_, rfl⟩, after⟩

theorem Sent.holds {α : Type} {holds : ω → Prop} {outcome : Except Fault α} {world : ω}
    (sent : Sent holds holds outcome world) : holds world := by
  rcases sent with kept | ⟨-, kept⟩
  · exact kept
  · exact kept

variable [Store ω] {good : Write → Prop} {config : Config}

/-- What becomes of worlds when pairs of a kind are written: a world stays whole as long as batches
are acknowledged, and is broken once one has been refused. -/
structure Sends (good : Write → Prop) (whole broken : ω → Prop) : Prop where
  acknowledged : ∀ {writes : List Write} {world next : ω}, (∀ pair ∈ writes, good pair) →
    whole world → Store.writeBatch writes world = (.ok (), next) → whole next
  refused : ∀ {writes : List Write} {world next : ω} {reason : StoreError},
    (∀ pair ∈ writes, good pair) → whole world →
    Store.writeBatch writes world = (.error reason, next) → broken next

/-- Whether a property of worlds is kept by connecting, by releasing, and by writing pairs of a
kind. -/
structure Keeps (good : Write → Prop) (holds : ω → Prop) : Prop where
  connect : ∀ world, holds world → holds (Store.connect world).2
  release : ∀ world, holds world → holds (Store.release world)
  writeBatch : ∀ writes world, (∀ pair ∈ writes, good pair) → holds world →
    holds (Store.writeBatch writes world).2

/-- A property that writing keeps is kept by every batch, acknowledged or refused. -/
theorem Sends.of_kept {holds : ω → Prop} (kept : ∀ writes world, (∀ pair ∈ writes, good pair) →
    holds world → holds (Store.writeBatch writes world).2) : Sends good holds holds := by
  constructor
  · intro writes world next new before writing
    have after := kept writes world new before
    rwa [writing] at after
  · intro writes world next reason new before writing
    have after := kept writes world new before
    rwa [writing] at after

theorem unitBatches_sent (sends : Sends good whole broken) {batches : List (List Literal)}
    (units : ∀ batch ∈ batches, ∀ literal ∈ batch, ∀ identifier,
      good (config.store.recordKey identifier, Record.encodeUnit literal))
    (progress : PublishProgress) {world : ω} (before : whole world) :
    let result := unitBatches config batches progress world
    Sent whole broken result.1 result.2.2 := by
  induction batches generalizing progress world with
  | nil => exact .inl before
  | cons batch batches ih =>
    obtain ⟨first, others⟩ := List.forall_mem_cons.mp units
    rw [unitBatches]
    -- A batch is begun only if it finds enough identifiers.
    by_cases enough : batch.length ≤ progress.counter.remaining
    · rw [IdCounter.takeMany?_of_le enough]
      dsimp only
      rw [zipWith_range'_eq_numbered]
      have new : ∀ pair ∈ config.store.numbered progress.counter.next
          (batch.map Record.encodeUnit), good pair := by
        intro pair inside
        obtain ⟨identifier, text, isText, rfl⟩ :=
          StoreSettings.exists_of_mem_numbered _ _ inside
        obtain ⟨literal, isUnit, rfl⟩ := List.mem_map.mp isText
        exact first literal isUnit identifier
      cases writing : Store.writeBatch (config.store.numbered progress.counter.next
        (batch.map Record.encodeUnit)) world with
      | mk outcome next =>
        cases outcome with
        | error reason => exact .inr ⟨⟨reason, rfl⟩, sends.refused new before writing⟩
        | ok _ => exact ih others _ (sends.acknowledged new before writing)
    · have refused : progress.counter.takeMany? batch.length = none := if_neg enough
      rw [refused]
      exact .inl before

theorem writeClauses_sent (sends : Sends good whole broken) {batch : List Write}
    (new : ∀ pair ∈ batch, good pair) (progress : PublishProgress) {world : ω}
    (before : whole world) :
    let result := writeClauses batch progress world
    Sent whole broken result.1 result.2.2 := by
  rw [writeClauses]
  split
  · exact .inl before
  · cases writing : Store.writeBatch batch world with
    | mk outcome next =>
      cases outcome with
      | error reason => exact .inr ⟨⟨reason, rfl⟩, sends.refused new before writing⟩
      | ok _ => exact .inl (sends.acknowledged new before writing)

theorem clauseBatches_sent (sends : Sends good whole broken) {source : κ → Option Clause}
    (clauses : ∀ key clause, source key = some clause → ∀ identifier,
      good (config.store.recordKey identifier, Record.encode clause))
    (keys : List κ) {batch : List Write} (new : ∀ pair ∈ batch, good pair)
    (progress : PublishProgress) {world : ω} (before : whole world) :
    let result := clauseBatches config source keys batch progress world
    Sent whole broken result.1 result.2.2 := by
  induction keys generalizing batch progress world with
  | nil =>
    have sent := writeClauses_sent sends new progress before
    rw [clauseBatches]
    generalize writeClauses batch progress world = answer at sent ⊢
    obtain ⟨outcome, reached, next⟩ := answer
    cases outcome with
    | error reason => exact sent
    | ok _ => exact .inl sent.whole_of_ok
  | cons key keys ih =>
    rw [clauseBatches]
    generalize progress.countProcessed = progress
    cases found : source key with
    | none => exact .inl before
    | some clause =>
      dsimp only
      by_cases short : clause.length ≤ 1
      · rw [if_pos short]
        exact .inl before
      · rw [if_neg short]
        by_cases long : config.maxLength < clause.length
        · rw [if_pos long]
          exact ih new _ before
        · rw [if_neg long]
          cases progress.counter.take? with
          | none =>
            -- Without an identifier, those that have one are still written.
            have sent := writeClauses_sent sends new progress before
            dsimp only
            generalize writeClauses batch progress world = answer at sent ⊢
            obtain ⟨outcome, reached, next⟩ := answer
            cases outcome with
            | error reason => exact sent
            | ok _ => exact .inl sent.whole_of_ok
          | some taken =>
            obtain ⟨identifier, counter⟩ := taken
            have gathered : ∀ pair ∈ batch ++
                [(config.store.recordKey identifier, Record.encode clause)], good pair := by
              intro pair inside
              rcases List.mem_append.mp inside with earlier | last
              · exact new pair earlier
              · rw [List.mem_singleton.mp last]
                exact clauses key clause found identifier
            dsimp only
            split
            · have sent := writeClauses_sent sends gathered { progress with counter } before
              generalize writeClauses _ { progress with counter } world = answer at sent ⊢
              obtain ⟨outcome, reached, next⟩ := answer
              cases outcome with
              | error reason => exact sent
              | ok _ =>
                exact ih (fun _ none => absurd none List.not_mem_nil) reached sent.whole_of_ok
            · exact ih gathered _ before

end Publish

namespace Outbox

theorem units_drainUnits {outbox emptied : Outbox κ} {processed : Nat}
    (drained : outbox.drainUnits processed = .ok emptied) : emptied.units = [] := by
  rw [drainUnits] at drained
  split at drained
  · cases drained
    rfl
  · cases drained

theorem units_drainClauses {outbox emptied : Outbox κ} {processed : Nat}
    (drained : outbox.drainClauses processed = .ok emptied) : emptied.units = outbox.units := by
  rw [drainClauses] at drained
  split at drained
  · cases drained
    rfl
  · cases drained

end Outbox

namespace Peer

variable {peer : Peer κ}

/-- A peer of the same configuration whose waiting units all waited before. -/
structure Relieves (peer after : Peer κ) : Prop where
  config : after.config = peer.config
  units : after.outbox.units ⊆ peer.outbox.units

theorem Relieves.refl (peer : Peer κ) : Relieves peer peer := ⟨rfl, fun _ inside => inside⟩

theorem Relieves.trans {first second third : Peer κ} (one : Relieves first second)
    (two : Relieves second third) : Relieves first third :=
  ⟨two.config.trans one.config, fun _ inside => one.units (two.units inside)⟩

open Publish (Sends Sent)

variable [Store ω] {good : Write → Prop} {whole broken holds : ω → Prop}

theorem publishUnits_sent (sends : Sends good whole broken)
    (positive : 0 < peer.config.batchWidth)
    (units : ∀ literal ∈ peer.outbox.units, ∀ identifier,
      good (peer.config.store.recordKey identifier, Record.encodeUnit literal))
    (report : PublishReport) {world : ω} (before : whole world) :
    let result := peer.publishUnits report world
    Relieves peer result.2.2.1 ∧ Sent whole broken result.1 result.2.2.2 := by
  have queued : ∀ batch ∈ piecesOf peer.config.batchWidth peer.outbox.units, ∀ literal ∈ batch,
      ∀ identifier, good (peer.config.store.recordKey identifier, Record.encodeUnit literal) := by
    intro batch isBatch literal isUnit
    apply units
    rw [← (cutInto_piecesOf positive peer.outbox.units).flatten]
    exact List.mem_flatten.mpr ⟨batch, isBatch, isUnit⟩
  have sent := Publish.unitBatches_sent sends queued (peer.outset report) before
  rw [publishUnits]
  generalize Publish.unitBatches peer.config _ _ world = answer at sent ⊢
  obtain ⟨outcome, progress, next⟩ := answer
  have counted : Relieves peer (peer.withProgress progress) := ⟨rfl, fun _ inside => inside⟩
  cases outcome with
  | error reason => exact ⟨counted, sent⟩
  | ok _ =>
    have still := sent.whole_of_ok
    dsimp only
    cases drained : (peer.withProgress progress).outbox.drainUnits progress.report.units with
    | error reason => exact ⟨counted, .inl still⟩
    | ok outbox =>
      refine ⟨⟨rfl, fun _ inside => ?_⟩, .inl still⟩
      have none : outbox.units = [] := Outbox.units_drainUnits drained
      change _ ∈ outbox.units at inside
      rw [none] at inside
      exact absurd inside List.not_mem_nil

theorem publishClauses_sent (sends : Sends good whole broken) {source : κ → Option Clause}
    (clauses : ∀ key clause, source key = some clause → ∀ identifier,
      good (peer.config.store.recordKey identifier, Record.encode clause))
    (report : PublishReport) {world : ω} (before : whole world) :
    let result := peer.publishClauses source report world
    Relieves peer result.2.2.1 ∧ Sent whole broken result.1 result.2.2.2 := by
  have nothing : ∀ pair ∈ ([] : List Write), good pair := fun _ none =>
    absurd none List.not_mem_nil
  have sent := Publish.clauseBatches_sent sends clauses peer.outbox.clauses nothing
    (peer.outset report) before
  rw [publishClauses]
  generalize Publish.clauseBatches peer.config source _ [] _ world = answer at sent ⊢
  obtain ⟨outcome, progress, next⟩ := answer
  have counted : Relieves peer (peer.withProgress progress) := ⟨rfl, fun _ inside => inside⟩
  cases outcome with
  | error reason => exact ⟨counted, sent⟩
  | ok _ =>
    have still := sent.whole_of_ok
    dsimp only
    cases drained : (peer.withProgress progress).outbox.drainClauses progress.processed with
    | error reason => exact ⟨counted, .inl still⟩
    | ok outbox =>
      refine ⟨⟨rfl, fun _ inside => ?_⟩, .inl still⟩
      change _ ∈ outbox.units at inside
      rw [Outbox.units_drainClauses drained] at inside
      exact inside

/-- **A refused batch is the last one.** Over an open connection, a publication writes records of
its own as long as they are acknowledged. -/
theorem publishQueued_sent (peer : Peer κ) (source : κ → Option Clause)
    (sends : Sends good whole broken)
    (units : ∀ literal ∈ peer.outbox.units, ∀ identifier,
      good (peer.config.store.recordKey identifier, Record.encodeUnit literal))
    (clauses : ∀ key clause, source key = some clause → ∀ identifier,
      good (peer.config.store.recordKey identifier, Record.encode clause))
    {world : ω} (before : whole world) :
    let result := peer.publishQueued source world
    Relieves peer result.2.1 ∧ Sent whole broken result.1 result.2.2 := by
  rw [publishQueued]
  by_cases none : peer.config.batchWidth = 0
  · rw [if_pos none]
    exact ⟨.refl peer, .inl before⟩
  · obtain ⟨relieves, sent⟩ := publishUnits_sent sends (Nat.pos_of_ne_zero none) units
      { connected := true } before
    rw [if_neg none]
    generalize peer.publishUnits { connected := true } world = answer at relieves sent ⊢
    obtain ⟨outcome, report, middle, reached⟩ := answer
    cases outcome with
    | error reason => exact ⟨relieves, sent.error⟩
    | ok _ =>
      rw [← relieves.config] at clauses
      obtain ⟨further, more⟩ := publishClauses_sent sends clauses report sent.whole_of_ok
      dsimp only
      generalize middle.publishClauses source report reached = answer at further more ⊢
      obtain ⟨outcome, report, last, final⟩ := answer
      cases outcome with
      | error reason => exact ⟨relieves.trans further, more.error⟩
      | ok _ => exact ⟨relieves.trans further, .inl more.whole_of_ok⟩

/-- **What connecting, releasing and writing keep, a publication keeps**, whatever it ends with. No
units come to wait. -/
theorem publish_keeps (keeps : Publish.Keeps good holds) {source : κ → Option Clause}
    (units : ∀ literal ∈ peer.outbox.units, ∀ identifier,
      good (peer.config.store.recordKey identifier, Record.encodeUnit literal))
    (clauses : ∀ key clause, source key = some clause → ∀ identifier,
      good (peer.config.store.recordKey identifier, Record.encode clause))
    {world : ω} (before : holds world) :
    Relieves peer (peer.publish source world).2.1 ∧ holds (peer.publish source world).2.2 := by
  rw [publish]
  split
  · exact ⟨.refl peer, before⟩
  · have connected := keeps.connect world before
    generalize Store.connect world = answer at connected ⊢
    obtain ⟨outcome, next⟩ := answer
    cases outcome with
    | error reason => exact ⟨.refl peer, connected⟩
    | ok _ =>
      obtain ⟨relieves, sent⟩ :=
        peer.publishQueued_sent source (.of_kept keeps.writeBatch) units clauses connected
      exact ⟨relieves, keeps.release _ sent.holds⟩

end Peer

end ClauseSharing
