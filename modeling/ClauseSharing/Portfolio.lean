import ClauseSharing.Peer.Import
import ClauseSharing.Peer.Inbox
import ClauseSharing.Peer.Publish
import ClauseSharing.Rising
import ClauseSharing.Solver
import ClauseSharing.Store.LocalStore
import ClauseSharing.World

/-! # Portfolios

Any number of instances, each a solver with its peer, that share one store. Whatever happens in a
portfolio is an action of one member's solver, of one member's peer, or on the store itself: its
faults are switched, or a command is given over a connection that is held open. -/

namespace ClauseSharing

/-- One instance of a portfolio. -/
structure Member where
  name : String
  solver : Solver
  peer : Peer LearntKey

namespace Member

/-- An instance that has done nothing yet, with the identifier of its first record. -/
def starting (name : String) (config : Config) (firstId : Nat) : Member where
  name := name
  solver := .starting config
  peer := { config, counter := .startingAt firstId }

end Member

/-- What a solver is asked to do. -/
inductive SolverAction where
  /-- Stores a clause of the solver's own. -/
  | learn (literals : Clause) (distance : Nat)
  /-- Stores a clause in no tier's list. -/
  | allocate (literals : Clause) (distance : Nat)
  | markTier (key : LearntKey) (tier : Tier)
  | setTouched (key : LearntKey) (conflicts : Nat)
  | attach (key : LearntKey)
  | bumpClause (key : LearntKey)
  | decayClauses
  | decayAtoms
  | remove (key : LearntKey)
  | recordDistance (distance : Nat)
  | noteCopy (key : LiteralSet)
  /-- Makes a literal hold for good. -/
  | assignFact (literal : Literal)
  | decide (literal : Literal)
  /-- Makes a literal hold as a consequence of what holds already. -/
  | assign (literal : Literal)
  | backjump
  | setUnsatisfiable
  | setAdaptive (adaptive : Bool)
  | setConflicts (conflicts : Nat)

/-- What a peer is asked to do. -/
inductive PeerAction where
  | queueUnit (literal : Literal)
  | queueClause (key : LearntKey)
  | publish
  | importInbox
  | inboxLength
  | pushInbox (records : List String)
  | flushStore
  /-- Puts all that was published under a stem in the inbox, by rising identifiers. -/
  | route (stem : String)

/-- A command over an open connection. -/
inductive StoreCommand where
  | writeBatch (writes : List Write)
  | listLength (name : String)
  | popBatch (name : String) (count : Nat)
  | push (name : String) (records : List String)
  | flush

/-- What is done to a store in memory. -/
inductive StoreAction where
  | setUnreachable (unreachable : Bool)
  | setReplyLimit (limit : Option Nat)
  | setPopLimit (limit : Option Nat)
  /-- Opens a connection and holds it under a name, in place of one held before. -/
  | connect (connection : String)
  /-- Releases a connection that is held. -/
  | close (connection : String)
  /-- Gives a command over a connection that is held. -/
  | over (connection : String) (command : StoreCommand)

/-- What happens in a portfolio, where members are numbered from zero. -/
inductive PortfolioAction where
  | solver (member : Nat) (action : SolverAction)
  | peer (member : Nat) (action : PeerAction)
  | store (action : StoreAction)

/-- What comes of an action. -/
inductive Answer where
  /-- Nothing to tell. -/
  | done
  /-- A clause was stored. -/
  | stored (key : LearntKey)
  /-- A clause was removed, if there was one. -/
  | removed (learnt : Option LearntClause)
  | number (number : Nat)
  | records (records : List String)
  | published (report : PublishReport)
  | imported (report : ImportReport)
  | failed (fault : Fault)
  /-- A fact was to be assigned while decisions stood, and nothing was done. -/
  | factRefused
  /-- No connection is held under the name. -/
  | noConnection
  /-- There is no such member. -/
  | noMember

namespace Answer

/-- The answer to a command that may fail. -/
def ofExcept {ε α : Type} (fault : ε → Fault) (answer : α → Answer) : Except ε α → Answer
  | .ok value => answer value
  | .error error => .failed (fault error)

end Answer

namespace SolverAction

/-- Does what a solver is asked to do. -/
def perform (solver : Solver) : SolverAction → Answer × Solver
  | learn literals distance =>
    let (key, solver) := solver.learn literals distance
    (.stored key, solver)
  | allocate literals distance =>
    let (key, solver) := Host.allocate literals distance solver
    (.stored key, solver)
  | markTier key tier => (.done, Host.markTier key tier solver)
  | setTouched key conflicts => (.done, Host.setTouched key conflicts solver)
  | attach key => (.done, Host.attach key solver)
  | bumpClause key => (.done, Host.bumpClause key solver)
  | decayClauses => (.done, Host.decayClauses solver)
  | decayAtoms => (.done, Host.decayAtoms solver)
  | remove key =>
    let (learnt, solver) := solver.remove key
    (.removed learnt, solver)
  | recordDistance distance => (.done, Host.recordDistance distance solver)
  | noteCopy key =>
    let (copies, solver) := Host.noteCopy key solver
    (.number copies, solver)
  | assignFact literal =>
    match solver.assignFact? literal with
    | some solver => (.done, solver)
    | none => (.factRefused, solver)
  | decide literal => (.done, solver.decide literal)
  | assign literal => (.done, solver.assign literal)
  | backjump => (.done, solver.backjump)
  | setUnsatisfiable => (.done, Host.setUnsatisfiable solver)
  | setAdaptive adaptive => (.done, solver.onBranching fun branching => { branching with adaptive })
  | setConflicts conflicts =>
    (.done, solver.onBranching fun branching => { branching with conflicts })

end SolverAction

/-- What stands behind the stem and the colon of a key, if it starts with them. -/
def behindStem? (stem key : String) : Option String :=
  let start := (stem ++ ":").toList
  if start.isPrefixOf key.toList then some (String.ofList (key.toList.drop start.length)) else none

/-- The values published under a stem, by rising identifiers. -/
def publishedUnder (stem : String) (store : LocalStore) : List String :=
  let numbered := store.values.toList.filterMap fun (key, value) => do
    let identifier ← behindStem? stem key
    let number : Word ← Ranged.ofText? identifier
    some (number.toNat, value)
  (sortRising Prod.fst numbered).map Prod.snd

namespace PeerAction

/-- Does what a peer is asked to do, in the world of its store and its solver. -/
def perform (peer : Peer LearntKey) (world : World LocalStore Solver) :
    PeerAction → Answer × Peer LearntKey × World LocalStore Solver
  | queueUnit literal => (.done, peer.queueUnit literal, world)
  | queueClause key => (.done, peer.queueClause key, world)
  | publish =>
    let (outcome, peer, world) := peer.publish world.host.literals? world
    (.ofExcept id .published outcome, peer, world)
  | importInbox =>
    let (outcome, peer, world) := peer.importInbox world
    (.ofExcept id .imported outcome, peer, world)
  | inboxLength =>
    let (outcome, world) := peer.inboxLength world
    (.ofExcept id .number outcome, peer, world)
  | pushInbox records =>
    let (outcome, world) := peer.pushInbox records world
    (.ofExcept id .number outcome, peer, world)
  | flushStore =>
    let (outcome, world) := peer.flushStore world
    (.ofExcept id (fun _ => .done) outcome, peer, world)
  | route stem =>
    let (outcome, world) := peer.pushInbox (publishedUnder stem world.store) world
    (.ofExcept id .number outcome, peer, world)

end PeerAction

namespace StoreCommand

/-- Gives a command to any store. -/
def perform {ω : Type} [Store ω] (world : ω) : StoreCommand → Answer × ω
  | writeBatch writes =>
    let (outcome, world) := Store.writeBatch writes world
    (.ofExcept .store (fun _ => .done) outcome, world)
  | listLength name =>
    let (outcome, world) := Store.listLength name world
    (.ofExcept .store .number outcome, world)
  | popBatch name count =>
    let (outcome, world) := Store.popBatch name count world
    (.ofExcept .store .records outcome, world)
  | push name records =>
    let (outcome, world) := Store.push name records world
    (.ofExcept .store .number outcome, world)
  | flush =>
    let (outcome, world) := Store.flush world
    (.ofExcept .store (fun _ => .done) outcome, world)

end StoreCommand

/-- Instances that share a store. -/
structure Portfolio where
  store : LocalStore := {}
  members : Array Member := #[]
  /-- The names under which connections are held open. -/
  connections : Std.ExtTreeMap String Unit := ∅

namespace Portfolio

/-- Does something to the store. -/
def performStore (portfolio : Portfolio) : StoreAction → Answer × Portfolio
  | .setUnreachable unreachable =>
    (.done, { portfolio with store := { portfolio.store with unreachable } })
  | .setReplyLimit replyLimit =>
    (.done, { portfolio with store := { portfolio.store with replyLimit } })
  | .setPopLimit popLimit =>
    (.done, { portfolio with store := { portfolio.store with popLimit } })
  | .connect connection =>
    match portfolio.store.connect with
    | (.error reason, store) => (.failed (.store reason), { portfolio with store })
    | (.ok (), store) =>
      let store := if portfolio.connections.contains connection then store.release else store
      (.done, { portfolio with
        store, connections := portfolio.connections.insert connection () })
  | .close connection =>
    if portfolio.connections.contains connection then
      (.done, { portfolio with
        store := portfolio.store.release
        connections := portfolio.connections.erase connection })
    else (.noConnection, portfolio)
  | .over connection command =>
    if portfolio.connections.contains connection then
      let (answer, store) := command.perform portfolio.store
      (answer, { portfolio with store })
    else (.noConnection, portfolio)

/-- Does something. -/
def perform (portfolio : Portfolio) : PortfolioAction → Answer × Portfolio
  | .solver member action =>
    match portfolio.members[member]? with
    | none => (.noMember, portfolio)
    | some current =>
      let (answer, solver) := action.perform current.solver
      (answer, { portfolio with
        members := portfolio.members.setIfInBounds member { current with solver } })
  | .peer member action =>
    match portfolio.members[member]? with
    | none => (.noMember, portfolio)
    | some current =>
      let (answer, peer, world) := action.perform current.peer ⟨portfolio.store, current.solver⟩
      (answer, { portfolio with
        store := world.store
        members := portfolio.members.setIfInBounds member
          { current with peer, solver := world.host } })
  | .store action => portfolio.performStore action

/-- Does one thing after another and returns what came of each. -/
def run (portfolio : Portfolio) : List PortfolioAction → List Answer × Portfolio
  | [] => ([], portfolio)
  | action :: actions =>
    let (answer, next) := portfolio.perform action
    let (answers, last) := next.run actions
    (answer :: answers, last)

end Portfolio

end ClauseSharing
