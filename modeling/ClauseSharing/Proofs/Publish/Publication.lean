import ClauseSharing.Proofs.Publish.Course

/-! # What a publication comes to

The courses of the units and of the clauses put together are all that a publication can come to
(`Peer.Publication`, `Peer.publish_accounted`), and a run of publications between which units and
clauses are queued is a row of those (`Peer.Run`, `Peer.follow_accounted`). -/

namespace ClauseSharing

namespace Peer

variable {ω κ : Type}

/-- Where a publication stands once the connection is open. -/
def begun (peer : Peer κ) : PublishProgress := peer.outset { connected := true }

/-- What a publication can come to: nothing waits, or the store cannot be reached, or batches have
no width, or writing the units or the clauses fails, or all that waited is dealt with. What the
store answers to being connected to is `reached`. -/
inductive Publication (peer : Peer κ) (source : κ → Option Clause)
    (reached : Except StoreError Unit) :
    Except Fault PublishReport → Peer κ → List Attempt → Prop where
  | idle : peer.outbox.isEmpty = true → Publication peer source reached (.ok {}) peer []
  | unreached {reason : StoreError} : reached = .error reason →
      Publication peer source reached (.error (.store reason)) peer []
  | widthless : peer.config.batchWidth = 0 →
      Publication peer source reached (.error (.publishing .noBatchWidth)) peer []
  | unitsFailed {fault : Fault} {texts : List String} {sent : List Attempt}
      {after : PublishProgress} :
      Course peer.config peer.begun [] texts sent [] after →
      UnitsEnd peer.outbox.units peer.begun (.error fault) texts sent after →
      Publication peer source reached (.error fault) (peer.withProgress after) sent
  | clausesFailed {fault : Fault} {texts more : List String} {sent later : List Attempt}
      {left : List Write} {middle after : PublishProgress} :
      Course peer.config peer.begun [] texts sent [] middle →
      UnitsEnd peer.outbox.units peer.begun (.ok ()) texts sent middle →
      Course peer.config middle [] more later left after →
      Publish.ClausesEnd peer.config source peer.outbox.clauses 0 (.error fault) more later left →
      Publication peer source reached (.error fault)
        { peer.withProgress after with outbox := { peer.outbox with units := [] } } (sent ++ later)
  | complete {texts more : List String} {sent later : List Attempt} {left : List Write}
      {middle after : PublishProgress} :
      Course peer.config peer.begun [] texts sent [] middle →
      UnitsEnd peer.outbox.units peer.begun (.ok ()) texts sent middle →
      Course peer.config middle [] more later left after →
      Publish.ClausesEnd peer.config source peer.outbox.clauses 0 (.ok ()) more later left →
      Publication peer source reached (.ok after.report)
        { peer.withProgress after with outbox := {} } (sent ++ later)

variable [Store ω] (peer : Peer κ) (source : κ → Option Clause)

theorem publishUnits_course (positive : 0 < peer.config.batchWidth) (ledger : Ledger ω) :
    ∃ outcome texts sent after world,
      Course peer.config peer.begun [] texts sent [] after ∧
      UnitsEnd peer.outbox.units peer.begun outcome texts sent after ∧
      peer.publishUnits { connected := true } ledger = (outcome, after.report,
        match outcome with
        | .error _ => peer.withProgress after
        | .ok () => { peer.withProgress after with outbox := { peer.outbox with units := [] } },
        { attempts := ledger.attempts ++ sent, world }) := by
  obtain ⟨outcome, texts, sent, after, world, done, course, ends⟩ :=
    Publish.unitBatches_course peer.config
      (piecesOf peer.config.batchWidth peer.outbox.units) peer.begun ledger
  rw [(cutInto_piecesOf positive _).flatten] at ends
  refine ⟨outcome, texts, sent, after, world, course, ends, ?_⟩
  rw [publishUnits]
  rw [begun] at done
  rw [done]
  cases outcome with
  | error fault => rfl
  | ok _ =>
    cases ends with
    | complete _ counted =>
      have all : after.report.units = peer.outbox.units.length := counted.trans (Nat.zero_add _)
      have drained : (peer.withProgress after).outbox.drainUnits after.report.units =
          .ok { peer.outbox with units := [] } := if_pos all
      simp only [drained]

theorem publishClauses_course (positive : 0 < peer.config.batchWidth) (report : PublishReport)
    (ledger : Ledger ω) :
    ∃ outcome texts sent left after world,
      Course peer.config (peer.outset report) [] texts sent left after ∧
      Publish.ClausesEnd peer.config source peer.outbox.clauses 0 outcome texts sent left ∧
      peer.publishClauses source report ledger = (outcome, after.report,
        match outcome with
        | .error _ => peer.withProgress after
        | .ok () => { peer.withProgress after with outbox := { peer.outbox with clauses := [] } },
        { attempts := ledger.attempts ++ sent, world }) := by
  obtain ⟨outcome, texts, sent, left, after, world, done, course, ends⟩ :=
    Publish.clauseBatches_course peer.config source peer.outbox.clauses [] positive
      (peer.outset report) ledger
  refine ⟨outcome, texts, sent, left, after, world, course, ends, ?_⟩
  rw [publishClauses, done]
  cases outcome with
  | error fault => rfl
  | ok _ =>
    have all : after.processed = peer.outbox.clauses.length :=
      (Publish.processed_clauseBatches _ _ _ _ _ done).trans (Nat.zero_add _)
    have drained : (peer.withProgress after).outbox.drainClauses after.processed =
        .ok { peer.outbox with clauses := [] } := if_pos all
    simp only [drained]

/-- **A publication comes to one of these ends**, whatever the store answers and the source gives
out. -/
theorem publish_publication (ledger : Ledger ω) :
    ∃ outcome after sent world,
      Publication peer source (Store.connect ledger.world).1 outcome after sent ∧
      peer.publish source ledger =
        (outcome, after, { attempts := ledger.attempts ++ sent, world }) := by
  rw [publish]
  by_cases empty : peer.outbox.isEmpty = true
  · refine ⟨_, _, _, ledger.world, .idle empty, ?_⟩
    rw [if_pos empty, List.append_nil]
  · have connects : Store.connect ledger = Ledger.beneath Store.connect ledger := rfl
    rw [if_neg empty, connects, Ledger.beneath]
    generalize Store.connect ledger.world = answer
    obtain ⟨outcome, connected⟩ := answer
    cases outcome with
    | error reason =>
      refine ⟨_, _, _, connected, .unreached rfl, ?_⟩
      rw [List.append_nil]
    | ok _ =>
      dsimp only
      rw [publishQueued]
      -- Batches without width are refused before anything is sent.
      by_cases none : peer.config.batchWidth = 0
      · refine ⟨_, _, _, Store.release connected, .widthless none, ?_⟩
        rw [if_pos none, List.append_nil]
        rfl
      · have positive : 0 < peer.config.batchWidth := Nat.pos_of_ne_zero none
        obtain ⟨outcome, texts, sent, middle, world, course, ends, done⟩ :=
          peer.publishUnits_course positive { ledger with world := connected }
        rw [if_neg none, done]
        cases outcome with
        | error fault => exact ⟨_, _, _, _, .unitsFailed course ends, rfl⟩
        | ok _ =>
          dsimp only
          obtain ⟨outcome, more, later, left, after, world, further, final, finished⟩ :=
            publishClauses_course
              { peer.withProgress middle with outbox := { peer.outbox with units := [] } } source
              positive middle.report { attempts := ledger.attempts ++ sent, world }
          have onward : Course peer.config middle [] more later left after :=
            further.congr_before rfl rfl
          rw [finished]
          cases outcome with
          | error fault =>
            refine ⟨_, _, _, Store.release world, .clausesFailed course ends onward final, ?_⟩
            rw [← List.append_assoc]
            rfl
          | ok _ =>
            refine ⟨_, _, _, Store.release world, .complete course ends onward final, ?_⟩
            rw [← List.append_assoc]
            rfl

/-- How many identifiers a publication takes and leaves unused: those of the clauses in front of one
that is not live and plural, as far as they fill no batch. -/
def stranded (peer : Peer κ) (source : κ → Option Clause) :
    Except Fault PublishReport → Nat
  | .error (.publishing .removedClause) | .error (.publishing .shortClause) =>
    (Publish.shared peer.config source (Publish.leading source peer.outbox.clauses)).length %
      peer.config.batchWidth
  | _ => 0

/-- Identifiers are taken on one course, whatever a publication comes to. -/
theorem Publication.course {peer after : Peer κ} {source : κ → Option Clause}
    {reached : Except StoreError Unit} {outcome : Except Fault PublishReport} {sent : List Attempt}
    (ends : Publication peer source reached outcome after sent) :
    after.config = peer.config ∧ ∃ texts left, left.length = peer.stranded source outcome ∧
      Course peer.config peer.begun [] texts sent left after.begun := by
  cases ends with
  | idle _ => exact ⟨rfl, _, _, rfl, .still rfl rfl⟩
  | unreached _ => exact ⟨rfl, _, _, rfl, .still rfl rfl⟩
  | widthless _ => exact ⟨rfl, _, _, rfl, .still rfl rfl⟩
  | unitsFailed units ends =>
    refine ⟨rfl, _, _, ?_, units.congr rfl rfl⟩
    cases ends with
    | exhausted _ => rfl
    | refused _ _ => rfl
  | clausesFailed units _ clauses ends =>
    refine ⟨rfl, _, _, ?_, (units.trans clauses).congr rfl rfl⟩
    cases ends with
    | exhausted => rfl
    | unshareable kind rest =>
      rw [Nat.zero_add] at rest
      rcases kind with rfl | rfl <;> exact rest
    | refused _ => rfl
  | complete units _ clauses ends =>
    refine ⟨rfl, _, _, ?_, (units.trans clauses).congr rfl rfl⟩
    cases ends with
    | complete _ _ => rfl

end Peer

/-- What a peer is asked to do on the way out. -/
inductive OutboxAction (κ : Type) where
  | queueUnit (literal : Literal)
  | queueClause (key : κ)
  /-- Publishes all that waits, where the source gives out the clauses of that moment. -/
  | publish (source : κ → Option Clause)

namespace OutboxAction

variable {κ : Type}

/-- The units that are queued in a run. -/
def units (actions : List (OutboxAction κ)) : List Literal :=
  actions.filterMap fun
    | queueUnit literal => some literal
    | _ => none

/-- The keys of the clauses that are queued in a run. -/
def clauses (actions : List (OutboxAction κ)) : List κ :=
  actions.filterMap fun
    | queueClause key => some key
    | _ => none

/-- The sources from which is published in a run. -/
def sources (actions : List (OutboxAction κ)) : List (κ → Option Clause) :=
  actions.filterMap fun
    | publish source => some source
    | _ => none

end OutboxAction

namespace Peer

variable {ω κ : Type} [Store ω]

/-- Does one thing after another and returns what came of each publication. -/
def follow (peer : Peer κ) (world : ω) :
    List (OutboxAction κ) → List (Except Fault PublishReport) × Peer κ × ω
  | [] => ([], peer, world)
  | .queueUnit literal :: actions => (peer.queueUnit literal).follow world actions
  | .queueClause key :: actions => (peer.queueClause key).follow world actions
  | .publish source :: actions =>
    let (outcome, peer, world) := peer.publish source world
    let (outcomes, last, world) := peer.follow world actions
    (outcome :: outcomes, last, world)

/-- How many identifiers are stranded in a run. -/
def strandedIn (peer : Peer κ) (world : ω) : List (OutboxAction κ) → Nat
  | [] => 0
  | .queueUnit literal :: actions => (peer.queueUnit literal).strandedIn world actions
  | .queueClause key :: actions => (peer.queueClause key).strandedIn world actions
  | .publish source :: actions =>
    let (outcome, after, next) := peer.publish source world
    peer.stranded source outcome + after.strandedIn next actions

/-- What a run can come to: each publication in it comes to one of the ends of a publication, and so
many identifiers are stranded in all. -/
inductive Run : Peer κ → List (OutboxAction κ) → List (Except Fault PublishReport) → List Attempt →
    Nat → Peer κ → Prop where
  | done {peer : Peer κ} : Run peer [] [] [] 0 peer
  | queueUnit {peer last : Peer κ} {literal : Literal} {actions : List (OutboxAction κ)}
      {outcomes : List (Except Fault PublishReport)} {sent : List Attempt} {unused : Nat} :
      Run (peer.queueUnit literal) actions outcomes sent unused last →
      Run peer (.queueUnit literal :: actions) outcomes sent unused last
  | queueClause {peer last : Peer κ} {key : κ} {actions : List (OutboxAction κ)}
      {outcomes : List (Except Fault PublishReport)} {sent : List Attempt} {unused : Nat} :
      Run (peer.queueClause key) actions outcomes sent unused last →
      Run peer (.queueClause key :: actions) outcomes sent unused last
  | publish {peer after last : Peer κ} {source : κ → Option Clause}
      {reached : Except StoreError Unit} {actions : List (OutboxAction κ)}
      {outcome : Except Fault PublishReport} {outcomes : List (Except Fault PublishReport)}
      {sent later : List Attempt} {unused : Nat} :
      Publication peer source reached outcome after sent →
      Run after actions outcomes later unused last →
      Run peer (.publish source :: actions) (outcome :: outcomes) (sent ++ later)
        (peer.stranded source outcome + unused) last

theorem follow_forget (peer : Peer κ) (actions : List (OutboxAction κ)) (ledger : Ledger ω) :
    Ledger.forget (peer.follow ledger actions) = peer.follow ledger.world actions := by
  induction actions generalizing peer ledger with
  | nil => rfl
  | cons action actions ih =>
    cases action with
    | queueUnit literal => exact ih _ ledger
    | queueClause key => exact ih _ ledger
    | publish source =>
      rw [follow, follow, ← publish_forget]
      generalize peer.publish source ledger = answer
      obtain ⟨outcome, after, next⟩ := answer
      dsimp only [Ledger.forget]
      rw [← ih]
      rfl

/-- Every run is made of such ends, whatever the store answers on the way. -/
theorem follow_run (peer : Peer κ) (actions : List (OutboxAction κ)) (ledger : Ledger ω) :
    ∃ outcomes sent last world,
      Run peer actions outcomes sent (peer.strandedIn ledger.world actions) last ∧
      peer.follow ledger actions =
        (outcomes, last, { attempts := ledger.attempts ++ sent, world }) := by
  induction actions generalizing peer ledger with
  | nil =>
    refine ⟨[], [], peer, ledger.world, .done, ?_⟩
    rw [follow, List.append_nil]
  | cons action actions ih =>
    cases action with
    | queueUnit literal =>
      obtain ⟨outcomes, sent, last, world, run, followed⟩ := ih (peer.queueUnit literal) ledger
      exact ⟨outcomes, sent, last, world, .queueUnit run, followed⟩
    | queueClause key =>
      obtain ⟨outcomes, sent, last, world, run, followed⟩ := ih (peer.queueClause key) ledger
      exact ⟨outcomes, sent, last, world, .queueClause run, followed⟩
    | publish source =>
      obtain ⟨outcome, after, sent, next, ends, published⟩ := peer.publish_publication source ledger
      obtain ⟨outcomes, later, last, world, run, followed⟩ :=
        ih after { attempts := ledger.attempts ++ sent, world := next }
      have beneath := peer.publish_forget source ledger
      rw [published] at beneath
      refine ⟨outcome :: outcomes, sent ++ later, last, world, ?_, ?_⟩
      · rw [strandedIn, ← beneath]
        exact .publish ends run
      · rw [follow, published]
        dsimp only
        rw [followed, List.append_assoc]

/-- **A publication with its account**: it comes to one of its ends, and an account of what it sends
is kept without changing anything. -/
theorem publish_accounted (peer : Peer κ) (source : κ → Option Clause) (world : ω) :
    ∃ outcome after sent next,
      Publication peer source (Store.connect world).1 outcome after sent ∧
      peer.publish source world = (outcome, after, next) ∧
      peer.publish source ({ world } : Ledger ω) = (outcome, after, ⟨sent, next⟩) := by
  obtain ⟨outcome, after, sent, next, ends, published⟩ :=
    peer.publish_publication source ({ world } : Ledger ω)
  have beneath := peer.publish_forget source ({ world } : Ledger ω)
  rw [published] at beneath
  exact ⟨outcome, after, sent, next, ends, beneath.symm, published⟩

/-- **A run with its account.** -/
theorem follow_accounted (peer : Peer κ) (actions : List (OutboxAction κ)) (world : ω) :
    ∃ outcomes last sent next,
      Run peer actions outcomes sent (peer.strandedIn world actions) last ∧
      peer.follow world actions = (outcomes, last, next) ∧
      peer.follow ({ world } : Ledger ω) actions = (outcomes, last, ⟨sent, next⟩) := by
  obtain ⟨outcomes, sent, last, next, run, followed⟩ :=
    peer.follow_run actions ({ world } : Ledger ω)
  have beneath := peer.follow_forget actions ({ world } : Ledger ω)
  rw [followed] at beneath
  exact ⟨outcomes, last, sent, next, run, beneath.symm, followed⟩

end Peer

end ClauseSharing
