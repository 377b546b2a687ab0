import ClauseSharing.CommandLine.Arguments
import ClauseSharing.Peer.Import
import ClauseSharing.Peer.Inbox
import ClauseSharing.Peer.Publish
import ClauseSharing.Redis.Address
import ClauseSharing.Solver
import ClauseSharing.World

/-! # Running a command

A command line is run in a world with a store: it prints lines and ends with a status. All arguments
are checked before the store is touched. The status is zero if all went well, one if a setting was
refused, two if the arguments make up no command line, and three if the store or an operation
failed. Lines printed before a failure stay. -/

namespace ClauseSharing.CommandLine

/-- What a run leaves behind. -/
structure Outcome where
  status : Nat
  lines : List String
deriving DecidableEq

/-- All that a run prints. -/
def Outcome.text (outcome : Outcome) : String :=
  outcome.lines.foldl (fun printed line => printed ++ line ++ "\n") ""

/-- A computation that may fail and prints lines in any case. -/
abbrev Printing (ε α : Type) := ExceptT ε (StateM (List String)) α

/-- Prints a line. -/
def say {ε : Type} (line : String) : Printing ε Unit :=
  modify (· ++ [line])

/-- The lines printed and what came of the computation. -/
def printed {ε α : Type} (computation : Printing ε α) : Except ε α × List String :=
  Id.run (StateT.run (ExceptT.run computation) [])

/-- Changes a bounded setting as it is asked for, if it is. -/
def revise {low high : Int} (setting : Setting (Ranged low high)) (request : Option String) :
    Printing SettingError (Setting (Ranged low high)) :=
  match request with
  | none => pure setting
  | some text =>
    match setting.assignText text with
    | .ok setting => do
      say s!"c {setting.name} set to: {setting.value.toText}"
      pure setting
    | .error reason => do
      let least := setting.least.toText
      let greatest := setting.greatest.toText
      say s!"c {setting.name} requires a value between {least} and {greatest}"
      throw reason

/-- The names and places that are asked for. -/
def storeSettings (invocation : Invocation) : StoreSettings :=
  let standard : StoreSettings := {}
  { host := (invocation.text? .host).getD standard.host
    port := ((invocation.integer? .port).bind Ranged.ofInt?).getD standard.port
    database := ((invocation.integer? .database).bind Ranged.ofInt?).getD standard.database
    stem := (invocation.text? .stem).getD standard.stem
    inbox := (invocation.text? .inbox).getD standard.inbox }

/-- The configuration that is asked for. -/
def configure (invocation : Invocation) : Printing SettingError Config := do
  let standard : Config := {}
  let batchWidth ← revise standard.publishing.batchWidth (invocation.text? .batchWidth)
  let maxLength ← revise standard.publishing.maxLength (invocation.text? .maxLength)
  let coreCut ← revise standard.tiers.coreCut (invocation.text? .coreCut)
  let secondCut ← revise standard.tiers.secondCut (invocation.text? .secondCut)
  let copyCut ← revise standard.tiers.copyCut (invocation.text? .copyCut)
  let minCopies ← revise standard.tiers.minCopies (invocation.text? .minCopies)
  pure { standard with
    store := storeSettings invocation
    publishing := { batchWidth, maxLength }
    tiers := { coreCut, secondCut, copyCut, minCopies } }

variable {ω : Type} [Store ω]

/-- How a command ended, what it printed, and the world after it. -/
abbrev Ran (ω : Type) := Except Fault Unit × List String × ω

/-- A peer without clauses of its own. -/
def barePeer (config : Config) : Peer LearntKey := { config }

/-- Empties the store. -/
def flush (config : Config) (world : ω) : Ran ω :=
  match (barePeer config).flushStore world with
  | (.error fault, world) => (.error fault, [], world)
  | (.ok (), world) => (.ok (), ["c Store flushed"], world)

/-- Tells how many records wait in the inbox. -/
def pending (config : Config) (world : ω) : Ran ω :=
  match (barePeer config).inboxLength world with
  | (.error fault, world) => (.error fault, [], world)
  | (.ok length, world) =>
    (.ok (), [s!"c {length} records waiting in {config.store.inbox}"], world)

/-- The fault of the first record that cannot be read. -/
def checkRecords : List String → Except Fault Unit
  | [] => .ok ()
  | record :: records =>
    match Record.decode record with
    | .error reason => .error (.record reason)
    | .ok _ => checkRecords records

/-- Puts records in the inbox, if all of them can be read. -/
def push (config : Config) (records : List String) (world : ω) : Ran ω :=
  match checkRecords records with
  | .error fault => (.error fault, [], world)
  | .ok () =>
    match (barePeer config).pushInbox records world with
    | (.error fault, world) => (.error fault, [], world)
    | (.ok length, world) =>
      let line :=
        s!"c Pushed {records.length} records, {length} waiting in {config.store.inbox}"
      (.ok (), [line], world)

/-- The literals of wire integers, or the fault of the first that has none. -/
def readLiterals : List Int → Except Fault (List Literal)
  | [] => .ok []
  | int :: ints =>
    match Record.readLiteral int with
    | .error reason => .error (.record reason)
    | .ok literal => (readLiterals ints).map (literal :: ·)

/-- A peer with its solver, while the arguments of a publication are taken in. -/
structure Preparation where
  solver : Solver
  peer : Peer LearntKey

namespace Preparation

/-- Queues a clause: one literal as a unit, more as a clause that the solver learns first. The
empty clause is left out. -/
def queue (preparation : Preparation) : Clause → Printing Fault Preparation
  | [] => do
    say "c Skipped the empty clause"
    pure preparation
  | [literal] => pure { preparation with peer := preparation.peer.queueUnit literal }
  | clause =>
    let (key, solver) := preparation.solver.learn clause clause.distance
    pure { solver, peer := preparation.peer.queueClause key }

/-- Queues the clauses of records. -/
def queueRecords (preparation : Preparation) : List String → Printing Fault Preparation
  | [] => pure preparation
  | record :: records =>
    match Record.decode record with
    | .error reason => throw (.record reason)
    | .ok clause => do
      let preparation ← preparation.queue clause
      preparation.queueRecords records

/-- Queues units and then the clauses of records. -/
def ofArguments (config : Config) (firstId : Nat) (units : List Int) (records : List String) :
    Printing Fault Preparation :=
  match readLiterals units with
  | .error fault => throw fault
  | .ok literals =>
    let peer : Peer LearntKey := { config, counter := .startingAt firstId }
    queueRecords ⟨.starting config, literals.foldl Peer.queueUnit peer⟩ records

end Preparation

/-- Publishes units and clauses. -/
def publish (config : Config) (firstId : Nat) (units : List Int) (records : List String)
    (world : ω) : Ran ω :=
  match printed (Preparation.ofArguments config firstId units records) with
  | (.error fault, lines) => (.error fault, lines, world)
  | (.ok preparation, lines) =>
    match preparation.peer.publish preparation.solver.literals? world with
    | (.error fault, _, world) => (.error fault, lines, world)
    | (.ok report, peer, world) =>
      let counts := s!"{report.units} units and {report.clauses} clauses, skipped {report.skipped}"
      (.ok (), lines ++ ["c Published " ++ counts, s!"c Next id: {peer.counter.next}"], world)

/-- A solver in which literals hold for good. -/
def withFacts (solver : Solver) (literals : List Literal) : Solver :=
  literals.foldl Solver.assign solver

/-- A line for each clause of a tier. -/
def tierLines (solver : Solver) (tier : Tier) : List String :=
  (solver.learnt.tierKeys tier).filterMap fun key => do
    let clause ← solver.literals? key
    some s!"c {tier.name}: {Record.encode clause}"

/-- The lines that tell of an import. -/
def importLines (report : ImportReport) (solver : Solver) : List String :=
  [s!"c Imported {report.records} records",
    s!"c Units: {report.useful} useful, {report.redundant} redundant",
    s!"c Clauses: {report.core} core, {report.second} tier2, {report.active} local"] ++
  Tier.all.flatMap (tierLines solver) ++
  (if report.contradiction then [s!"c Contradiction, {report.discarded} records discarded"]
    else []) ++
  [if solver.satisfiable then "c Host consistent" else "s UNSATISFIABLE"]

/-- Imports the inbox into a solver in which the given facts hold. -/
def importInbox (config : Config) (adaptive : Bool) (facts : List Int) (world : ω) : Ran ω :=
  match readLiterals facts with
  | .error fault => (.error fault, [], world)
  | .ok literals =>
    let solver := (Solver.starting config).onBranching fun branching => { branching with adaptive }
    match (barePeer config).importInbox (World.mk world (withFacts solver literals)) with
    | (.error fault, _, world) => (.error fault, [], world.store)
    | (.ok report, _, world) => (.ok (), importLines report world.host, world.store)

/-- Runs the command of an invocation. -/
def runCommand (config : Config) (invocation : Invocation) (world : ω) : Ran ω :=
  match invocation.name with
  | .flush => flush config world
  | .pending => pending config world
  | .push => push config invocation.inner.records world
  | .publish =>
    let firstId := ((invocation.integers .firstId).head?.getD 0).toNat
    publish config firstId (invocation.integers .unit) (invocation.texts .clause) world
  | .importInbox =>
    let adaptive := (invocation.inner.value? .noAdaptive).isNone
    importInbox config adaptive (invocation.integers .fact) world

/-- Runs an invocation. -/
def runInvocation (invocation : Invocation) (world : ω) : Outcome × ω :=
  match printed (configure invocation) with
  | (.error reason, lines) =>
    (⟨1, lines ++ ["c Configuration error: " ++ reason.describe]⟩, world)
  | (.ok config, lines) =>
    let lines := lines ++ ["c Store at " ++ config.store.url]
    match Redis.checkAddress config.store with
    | .error reason => (⟨3, lines ++ ["c Store error: " ++ reason.describe]⟩, world)
    | .ok () =>
      match runCommand config invocation world with
      | (.ok (), more, world) => (⟨0, lines ++ more⟩, world)
      | (.error fault, more, world) =>
        let line := s!"c Exchange error: {fault.describe} ({fault.faultClass.name})"
        (⟨3, lines ++ more ++ [line]⟩, world)

/-- What is printed when the version is asked for. -/
def versionLine : String := "otter_exchange pup (it's still growing)"

/-- What is printed when help is asked for. -/
def helpLines : List String :=
  ["Moves learnt clauses between a solver instance and a shared store",
    "",
    "Usage: otter_exchange [OPTIONS] <COMMAND>",
    "",
    "Commands:",
    "  flush    Resets the entire namespace of the store",
    "  pending  Reports the count of records waiting in the inbox",
    "  push     Pushes records to the inbox, as a peer would",
    "  publish  Publishes units and clauses under the prefix of the instance",
    "  import   Pops the inbox and integrates each record into a fresh host",
    "",
    "Options:"] ++
  programLevel.options.map fun option => "  --" ++ option.long

/-- Runs a command line in a world with a store. -/
def run (words : List String) (world : ω) : Outcome × ω :=
  match parse words with
  | .ok invocation => runInvocation invocation world
  | .error .refused => (⟨2, []⟩, world)
  | .error .help => (⟨0, helpLines⟩, world)
  | .error .version => (⟨0, [versionLine]⟩, world)

end ClauseSharing.CommandLine
