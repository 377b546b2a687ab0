import ClauseSharing.Host
import ClauseSharing.Peer

/-! # Importing

An import pops every record that waits in the inbox, releases the connection, and then gives the
clauses to the host one after the other. A unit gives its atom a value, holds already, or shows that
the host has no model, in which case the rest is discarded. Any other clause becomes a learnt clause
whose tier follows from its distance and from the number of its copies. The first record that cannot
be read, or that holds the empty clause, ends the import. All records are read into one buffer,
which is cleared before each. -/

namespace ClauseSharing

/-- What one import did. -/
@[ext]
structure ImportReport where
  /-- Records popped. -/
  records : Nat := 0
  /-- Units that gave an atom its value. -/
  useful : Nat := 0
  /-- Units that held already. -/
  redundant : Nat := 0
  /-- Clauses put in the core. -/
  core : Nat := 0
  /-- Clauses put in the second tier. -/
  second : Nat := 0
  /-- Clauses put in the last tier. -/
  active : Nat := 0
  /-- Whether a unit contradicted the host. -/
  contradiction : Bool := false
  /-- Records that came after the contradiction. -/
  discarded : Nat := 0
deriving DecidableEq

namespace Tier

/-- The tier of an imported clause of the given distance of which `copies` copies were announced. -/
def classify (settings : TierSettings) (distance copies : Nat) : Tier :=
  if distance ≤ settings.coreCut.value.toNat ∨ copies = settings.coreCopies then .core
  else if distance ≤ settings.secondCut.value.toNat ∨ copies = settings.minCopies.value.toNat then
    .second
  else .active

end Tier

/-- How far an import has come. -/
structure ImportProgress (ω : Type) where
  tally : Tally
  report : ImportReport
  world : ω

namespace ImportProgress

variable {ω κ : Type} [Host ω κ]

/-- Changes the world. -/
def act (progress : ImportProgress ω) (change : ω → ω) : ImportProgress ω :=
  { progress with world := change progress.world }

/-- Counts a unit that gave an atom its value. -/
def countUseful (progress : ImportProgress ω) : ImportProgress ω :=
  { progress with
    tally := { progress.tally with unitsUseful := progress.tally.unitsUseful + 1 }
    report := { progress.report with useful := progress.report.useful + 1 } }

/-- Counts a unit that held already. -/
def countRedundant (progress : ImportProgress ω) : ImportProgress ω :=
  { progress with
    tally := { progress.tally with unitsRedundant := progress.tally.unitsRedundant + 1 }
    report := { progress.report with redundant := progress.report.redundant + 1 } }

/-- Counts a unit that contradicted the host. -/
def countConflict (progress : ImportProgress ω) : ImportProgress ω :=
  { progress with
    tally := { progress.tally with unitsConflicting := progress.tally.unitsConflicting + 1 }
    report := { progress.report with contradiction := true } }

/-- Counts a clause that had exactly the number of copies for the second tier. -/
def countLifted (progress : ImportProgress ω) : ImportProgress ω :=
  { progress with tally := { progress.tally with copiesLifted := progress.tally.copiesLifted + 1 } }

/-- Counts a clause put in a tier. -/
def countTier (progress : ImportProgress ω) : Tier → ImportProgress ω
  | .core => { progress with
      tally := { progress.tally with importedCore := progress.tally.importedCore + 1 }
      report := { progress.report with core := progress.report.core + 1 } }
  | .second => { progress with
      tally := { progress.tally with importedSecond := progress.tally.importedSecond + 1 }
      report := { progress.report with second := progress.report.second + 1 } }
  | .active => { progress with
      tally := { progress.tally with importedActive := progress.tally.importedActive + 1 }
      report := { progress.report with active := progress.report.active + 1 } }

/-- Gives a unit to the host. -/
def integrateUnit (progress : ImportProgress ω) (literal : Literal) : ImportProgress ω :=
  match Host.value? literal.atom progress.world with
  | none => (progress.act (Host.assign literal)).countUseful
  | some value =>
    if value = literal.positive then progress.countRedundant
    else (progress.act Host.setUnsatisfiable).countConflict

/-- Notes a copy of a clause, where clauses of its distance are counted, and returns the number of
copies announced. -/
def noteCopy (settings : TierSettings) (clause : Clause) (world : ω) : Nat × ω :=
  if clause.distance ≤ settings.copyCut.value.toNat then
    Host.noteCopy (LiteralSet.ofClause clause) world
  else
    (0, world)

/-- What a tier asks of a clause that is put in it. -/
def enterTier (key : κ) (tier : Tier) (world : ω) : ω :=
  match tier with
  | .core => world
  | .second => Host.setTouched key (Host.conflicts world) world
  | .active => Host.bumpClause key world

/-- Attaches a clause and lets all activities decay. -/
def settle (key : κ) (world : ω) : ω :=
  let world := Host.attach key world
  let world := if Host.isAdaptive world then Host.decayAtoms world else world
  Host.decayClauses world

/-- Gives a clause of two literals or more to the host. -/
def integrateClause (settings : TierSettings) (progress : ImportProgress ω) (clause : Clause) :
    ImportProgress ω :=
  let (key, world) := Host.allocate clause clause.distance progress.world
  let (copies, world) := noteCopy settings clause world
  let progress := { progress with world }
  let progress :=
    if copies = settings.minCopies.value.toNat then progress.countLifted else progress
  let tier := Tier.classify settings clause.distance copies
  ((progress.act fun world => enterTier key tier (Host.markTier key tier world)).countTier tier).act
    (settle key)

/-- Tells an adaptive host the distance of a clause. -/
def recordDistance (clause : Clause) (world : ω) : ω :=
  if Host.isAdaptive world then Host.recordDistance clause.distance world else world

/-- Gives a clause to the host. -/
def integrate (settings : TierSettings) (progress : ImportProgress ω) (clause : Clause) :
    Except Fault Unit × ImportProgress ω :=
  let progress := progress.act (recordDistance clause)
  match clause with
  | [] => (.error (.importing .emptyRecord), progress)
  | [literal] => (.ok (), progress.integrateUnit literal)
  | clause => (.ok (), progress.integrateClause settings clause)

/-- Gives the clauses of records to the host, up to the first offence or contradiction. The buffer
holds the clause that was read last. -/
def integrateBuffered (settings : TierSettings) : List String → Clause → ImportProgress ω →
    Except Fault Unit × ImportProgress ω
  | [], _, progress => (.ok (), progress)
  | record :: records, buffer, progress =>
    match Record.decodeInto buffer.cleared record with
    | (_, .error reason) => (.error (.record reason), progress)
    | (buffer, .ok ()) =>
      match progress.integrate settings buffer with
      | (.error reason, progress) => (.error reason, progress)
      | (.ok (), progress) =>
        if progress.report.contradiction then
          (.ok (), { progress with
            report := { progress.report with discarded := records.length } })
        else integrateBuffered settings records buffer progress

/-- Gives the clauses of records to the host, with a buffer of their own. -/
def integrateRecords (settings : TierSettings) (records : List String)
    (progress : ImportProgress ω) :
    Except Fault Unit × ImportProgress ω :=
  integrateBuffered settings records [] progress

/-- What the buffer held before leaves no trace. -/
theorem integrateBuffered_eq (settings : TierSettings) (records : List String) (buffer : Clause)
    (progress : ImportProgress ω) :
    integrateBuffered settings records buffer progress =
      progress.integrateRecords settings records := by
  cases records with
  | nil => rfl
  | cons record records =>
    rw [integrateRecords, integrateBuffered, integrateBuffered, Clause.cleared, Clause.cleared,
      List.take_zero, List.take_zero]

/-- A record is taken in by the clause that it holds, and the others are taken in after it. -/
theorem integrateRecords_cons (settings : TierSettings) (record : String) (records : List String)
    (progress : ImportProgress ω) :
    progress.integrateRecords settings (record :: records) =
      match Record.decode record with
      | .error reason => (.error (.record reason), progress)
      | .ok clause =>
        match progress.integrate settings clause with
        | (.error reason, progress) => (.error reason, progress)
        | (.ok (), progress) =>
          if progress.report.contradiction then
            (.ok (), { progress with
              report := { progress.report with discarded := records.length } })
          else progress.integrateRecords settings records := by
  rw [integrateRecords, integrateBuffered, Record.decode, Clause.cleared, List.take_zero]
  obtain ⟨clause, outcome⟩ := Record.decodeInto [] record
  cases outcome with
  | error reason => rfl
  | ok _ => simp only [integrateBuffered_eq]

end ImportProgress

namespace Peer

variable {ω κ : Type} [Store ω]

/-- The length of the inbox and, where it is not zero, as many records from it. -/
def fetchInbox (inbox : String) (world : ω) : Except StoreError (Nat × List String) × ω :=
  match Store.listLength inbox world with
  | (.error reason, world) => (.error reason, world)
  | (.ok 0, world) => (.ok (0, []), world)
  | (.ok pending, world) =>
    match Store.popBatch inbox pending world with
    | (.error reason, world) => (.error reason, world)
    | (.ok records, world) => (.ok (pending, records), world)

/-- Pops every record that waits in the inbox. -/
def popInbox (inbox : String) (world : ω) : Except StoreError (List String) × ω :=
  match Store.overConnection (fetchInbox inbox) world with
  | (.error reason, world) => (.error reason, world)
  | (.ok (pending, records), world) =>
    if records.length = pending then (.ok records, world)
    else (.error (.popMismatch pending records.length), world)

/-- Gives popped records to the host. -/
def integrateAll [Host ω κ] (peer : Peer κ) (records : List String) (world : ω) :
    Except Fault ImportReport × Peer κ × ω :=
  let tally := { peer.tally with
    recordsImported := peer.tally.recordsImported + records.length }
  let start : ImportProgress ω := ⟨tally, { records := records.length }, world⟩
  let (outcome, progress) := start.integrateRecords peer.config.tiers records
  (outcome.map fun _ => progress.report, { peer with tally := progress.tally }, progress.world)

/-- Imports every record that waits in the inbox, which is only done at decision level zero. -/
def importInbox [Host ω κ] (peer : Peer κ) (world : ω) :
    Except Fault ImportReport × Peer κ × ω :=
  let level := Host.decisionLevel world
  if level ≠ 0 then (.error (.importing (.decisionLevel level)), peer, world)
  else
    match popInbox peer.config.store.inbox world with
    | (.error reason, world) => (.error (.store reason), peer, world)
    | (.ok records, world) => peer.integrateAll records world

end Peer

end ClauseSharing
