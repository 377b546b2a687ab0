import ClauseSharing.Peer

/-! # Publishing

All that waits in the outbox is written to the store over one connection: first the units and then
the clauses, each under the next identifier, in batches that never mix the two. A batch of units is
begun only if an identifier is left for each of its units. Clauses take their identifiers one by
one, and those that have taken one are written even if no further identifier is left. A queue is
emptied only when all of it has been dealt with. -/

namespace ClauseSharing

/-- What one publication did. -/
@[ext]
structure PublishReport where
  /-- Units written. -/
  units : Nat := 0
  /-- Clauses written. -/
  clauses : Nat := 0
  /-- Clauses left out for their length. -/
  skipped : Nat := 0
  /-- Whether the store was connected to. -/
  connected : Bool := false
deriving DecidableEq

namespace PublishReport

/-- The number of records written. -/
def published (report : PublishReport) : Nat := report.units + report.clauses

end PublishReport

/-- A list cut into pieces of the given length, of which only the last may be shorter. Pieces of
length zero are not cut. -/
def piecesOf {α : Type} (width : Nat) : List α → List (List α)
  | [] => []
  | first :: rest =>
    if width = 0 then []
    else (first :: rest.take (width - 1)) :: piecesOf width (rest.drop (width - 1))
termination_by list => list.length
decreasing_by
  simp only [List.length_drop, List.length_cons]
  omega

/-- How far a publication has come. -/
structure PublishProgress where
  counter : IdCounter
  tally : Tally
  report : PublishReport
  /-- How many of the clauses that wait have been looked at. -/
  processed : Nat := 0

namespace PublishProgress

/-- Counts units that were written. -/
def countUnits (progress : PublishProgress) (count : Nat) : PublishProgress :=
  { progress with
    tally := { progress.tally with unitsPublished := progress.tally.unitsPublished + count }
    report := { progress.report with units := progress.report.units + count } }

/-- Counts clauses that were written. -/
def countClauses (progress : PublishProgress) (count : Nat) : PublishProgress :=
  { progress with
    tally := { progress.tally with clausesPublished := progress.tally.clausesPublished + count }
    report := { progress.report with clauses := progress.report.clauses + count } }

/-- Counts a clause that is left out. -/
def countSkipped (progress : PublishProgress) : PublishProgress :=
  { progress with report := { progress.report with skipped := progress.report.skipped + 1 } }

/-- Counts a clause that is looked at. -/
def countProcessed (progress : PublishProgress) : PublishProgress :=
  { progress with processed := progress.processed + 1 }

/-- Adds the clauses left out to the tally. -/
def tallySkipped (progress : PublishProgress) : PublishProgress :=
  { progress with
    tally := { progress.tally with
      clausesSkipped := progress.tally.clausesSkipped + progress.report.skipped } }

end PublishProgress

namespace Publish

variable {ω κ : Type} [Store ω]

/-- Writes units batch by batch. -/
def unitBatches (config : Config) : List (List Literal) → PublishProgress → ω →
    Except Fault Unit × PublishProgress × ω
  | [], progress, world => (.ok (), progress, world)
  | batch :: batches, progress, world =>
    match progress.counter.takeMany? batch.length with
    | none => (.error (.publishing .identifiersExhausted), progress, world)
    | some (identifiers, counter) =>
      let progress := { progress with counter }
      let writes := List.zipWith (fun identifier literal =>
        (config.store.recordKey identifier, Record.encodeUnit literal)) identifiers batch
      match Store.writeBatch writes world with
      | (.error reason, world) => (.error (.store reason), progress, world)
      | (.ok (), world) => unitBatches config batches (progress.countUnits batch.length) world

/-- Writes a batch of clauses, if there are any in it. -/
def writeClauses (batch : List Write) (progress : PublishProgress) (world : ω) :
    Except Fault Unit × PublishProgress × ω :=
  if batch.isEmpty then (.ok (), progress, world)
  else
    match Store.writeBatch batch world with
    | (.error reason, world) => (.error (.store reason), progress, world)
    | (.ok (), world) => (.ok (), progress.countClauses batch.length, world)

/-- Writes clauses in batches, where `batch` holds those that have an identifier and are not written
yet. -/
def clauseBatches (config : Config) (source : κ → Option Clause) : List κ → List Write →
    PublishProgress → ω → Except Fault Unit × PublishProgress × ω
  | [], batch, progress, world =>
    match writeClauses batch progress world with
    | (.error reason, progress, world) => (.error reason, progress, world)
    | (.ok (), progress, world) => (.ok (), progress.tallySkipped, world)
  | key :: keys, batch, progress, world =>
    let progress := progress.countProcessed
    match source key with
    | none => (.error (.publishing .removedClause), progress, world)
    | some clause =>
      if clause.length ≤ 1 then (.error (.publishing .shortClause), progress, world)
      else if config.maxLength < clause.length then
        clauseBatches config source keys batch progress.countSkipped world
      else
        match progress.counter.take? with
        | none =>
          match writeClauses batch progress world with
          | (.error reason, progress, world) => (.error reason, progress, world)
          | (.ok (), progress, world) =>
            (.error (.publishing .identifiersExhausted), progress, world)
        | some (identifier, counter) =>
          let progress := { progress with counter }
          let batch := batch ++ [(config.store.recordKey identifier, Record.encode clause)]
          if batch.length = config.batchWidth then
            match writeClauses batch progress world with
            | (.error reason, progress, world) => (.error reason, progress, world)
            | (.ok (), progress, world) => clauseBatches config source keys [] progress world
          else
            clauseBatches config source keys batch progress world

end Publish

namespace Peer

variable {ω κ : Type} [Store ω]

/-- How far a publication has come where none of the clauses that wait has been looked at. -/
def outset (peer : Peer κ) (report : PublishReport) : PublishProgress where
  counter := peer.counter
  tally := peer.tally
  report := report

/-- The peer with the counts of a publication. -/
def withProgress (peer : Peer κ) (progress : PublishProgress) : Peer κ :=
  { peer with counter := progress.counter, tally := progress.tally }

/-- Writes all units that wait and empties their queue. -/
def publishUnits (peer : Peer κ) (report : PublishReport) (world : ω) :
    Except Fault Unit × PublishReport × Peer κ × ω :=
  let (outcome, progress, world) := Publish.unitBatches peer.config
    (piecesOf peer.config.batchWidth peer.outbox.units) (peer.outset report) world
  let peer := peer.withProgress progress
  match outcome with
  | .error reason => (.error reason, progress.report, peer, world)
  | .ok () =>
    match peer.outbox.drainUnits progress.report.units with
    | .error reason => (.error (.publishing reason), progress.report, peer, world)
    | .ok outbox => (.ok (), progress.report, { peer with outbox }, world)

/-- Writes all clauses that wait, but those too long, and empties their queue. -/
def publishClauses (peer : Peer κ) (source : κ → Option Clause) (report : PublishReport)
    (world : ω) : Except Fault Unit × PublishReport × Peer κ × ω :=
  let (outcome, progress, world) :=
    Publish.clauseBatches peer.config source peer.outbox.clauses [] (peer.outset report) world
  let peer := peer.withProgress progress
  match outcome with
  | .error reason => (.error reason, progress.report, peer, world)
  | .ok () =>
    match peer.outbox.drainClauses progress.processed with
    | .error reason => (.error (.publishing reason), progress.report, peer, world)
    | .ok outbox => (.ok (), progress.report, { peer with outbox }, world)

/-- Writes all that waits over the open connection. -/
def publishQueued (peer : Peer κ) (source : κ → Option Clause) (world : ω) :
    Except Fault PublishReport × Peer κ × ω :=
  if peer.config.batchWidth = 0 then (.error (.publishing .noBatchWidth), peer, world)
  else
    match peer.publishUnits { connected := true } world with
    | (.error reason, _, peer, world) => (.error reason, peer, world)
    | (.ok (), report, peer, world) =>
      match peer.publishClauses source report world with
      | (.error reason, _, peer, world) => (.error reason, peer, world)
      | (.ok (), report, peer, world) => (.ok report, peer, world)

/-- Publishes all that waits, reading clauses from `source`. Where nothing waits, the store is not
connected to. -/
def publish (peer : Peer κ) (source : κ → Option Clause) (world : ω) :
    Except Fault PublishReport × Peer κ × ω :=
  if peer.outbox.isEmpty then (.ok {}, peer, world)
  else
    match Store.connect world with
    | (.error reason, world) => (.error (.store reason), peer, world)
    | (.ok (), world) =>
      let (outcome, peer, world) := peer.publishQueued source world
      (outcome, peer, Store.release world)

end Peer

end ClauseSharing
