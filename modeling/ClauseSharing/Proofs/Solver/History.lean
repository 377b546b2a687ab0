import ClauseSharing.Portfolio
import ClauseSharing.Proofs.Import.Protocol

/-! # What has happened to a solver

Whatever happens to a solver is something that it is asked, or an import to it by some peer from
some store (`SolverEvent`). What this asks of its learnt clauses is a list of steps, and those of
an import are read off a log of its calls (`Peer.learntSteps`). The learnt clauses are what these
steps make of them one after the other (`Solver.learnt_follow`). -/

namespace ClauseSharing

/-- One thing that is asked of learnt clauses. -/
inductive LearntStep where
  | allocate (literals : Clause) (distance : Nat)
  | markTier (key : LearntKey) (tier : Tier)
  | setTouched (key : LearntKey) (conflicts : Nat)
  | bumpClause (key : LearntKey)
  | attach (key : LearntKey)
  | decayClauses
  | remove (key : LearntKey)

namespace LearntStep

/-- Does what is asked of learnt clauses. -/
def perform (base : LearntBase) : LearntStep → LearntBase
  | allocate literals distance => (base.allocate literals distance).2
  | markTier key tier => base.markTier key tier
  | setTouched key conflicts => base.setTouched key conflicts
  | bumpClause key => base.bumpClause key
  | attach key => base.attach key
  | decayClauses => base.decayClauses
  | remove key => (base.remove key).2

/-- Does one thing after another. -/
def performAll (base : LearntBase) (steps : List LearntStep) : LearntBase :=
  steps.foldl perform base

theorem performAll_append (base : LearntBase) (front rest : List LearntStep) :
    performAll base (front ++ rest) = performAll (performAll base front) rest := List.foldl_append

theorem performAll_concat (base : LearntBase) (steps : List LearntStep) (step : LearntStep) :
    performAll base (steps ++ [step]) = step.perform (performAll base steps) :=
  performAll_append base steps [step]

end LearntStep

/-- What a call asks of learnt clauses, if anything. -/
def Call.learntStep? : Call LearntKey → Option LearntStep
  | allocate literals distance => some (.allocate literals distance)
  | markTier key tier => some (.markTier key tier)
  | setTouched key conflicts => some (.setTouched key conflicts)
  | bumpClause key => some (.bumpClause key)
  | attach key => some (.attach key)
  | decayClauses => some .decayClauses
  | _ => none

/-- What an action asks of the learnt clauses. A clause of the solver's own is put in the last tier
as soon as it is stored. -/
def SolverAction.learntSteps (base : LearntBase) : SolverAction → List LearntStep
  | learn literals distance =>
    [.allocate literals distance, .markTier (base.allocate literals distance).1 .active]
  | allocate literals distance => [.allocate literals distance]
  | markTier key tier => [.markTier key tier]
  | setTouched key conflicts => [.setTouched key conflicts]
  | attach key => [.attach key]
  | bumpClause key => [.bumpClause key]
  | decayClauses => [.decayClauses]
  | remove key => [.remove key]
  | _ => []

namespace SolverAction

/-- A fact is only assigned at level zero. -/
theorem perform_assignFact (solver : Solver) (literal : Literal) :
    (assignFact literal).perform solver =
      if solver.assignment.level = 0 then (.done, solver.assign literal) else
      (.factRefused, solver) := by
  by_cases level : solver.assignment.level = 0
  · simp only [perform, Solver.assignFact?, Assignment.assignFact?, if_pos level, Option.map_some]
    rfl
  · simp only [perform, Solver.assignFact?, Assignment.assignFact?, if_neg level, Option.map_none]

theorem learnt_perform (action : SolverAction) (solver : Solver) :
    (action.perform solver).2.learnt =
      LearntStep.performAll solver.learnt (action.learntSteps solver.learnt) := by
  cases action with
  | assignFact literal =>
    rw [perform_assignFact]
    split <;> rfl
  | _ => rfl

end SolverAction

namespace Peer

variable {σ : Type} [Store σ]

/-- What an import asks of the learnt clauses of a solver, by a log of all its calls. -/
def learntSteps (peer : Peer LearntKey) (world : World σ Solver) : List LearntStep :=
  (peer.importInbox ({ world } : Logged LearntKey (World σ Solver))).2.2.calls.toList.filterMap
    Call.learntStep?

/-- Whether the learnt clauses in a logged world are what the calls in the log have made of
others. -/
def Accounted (base : LearntBase) (logged : Logged LearntKey (World σ Solver)) : Prop :=
  logged.world.host.learnt =
    LearntStep.performAll base (logged.calls.toList.filterMap Call.learntStep?)

variable {base : LearntBase} {logged : Logged LearntKey (World σ Solver)}

omit [Store σ] in
theorem Accounted.push (accounted : Accounted base logged) (call : Call LearntKey)
    {world : World σ Solver}
    (changed : world.host.learnt =
      LearntStep.performAll logged.world.host.learnt call.learntStep?.toList) :
    Accounted base ⟨logged.calls.push call, world⟩ := by
  have last : [call].filterMap Call.learntStep? = call.learntStep?.toList := by
    cases call <;> rfl
  rw [Accounted, Array.toList_push, List.filterMap_append, LearntStep.performAll_append, last,
    ← accounted]
  exact changed

omit [Store σ] in
theorem keeps_accounted (base : LearntBase) :
    Host.Keeps (Accounted base : Logged LearntKey (World σ Solver) → Prop) where
  assign literal _ accounted := accounted.push (.assign literal) rfl
  setUnsatisfiable _ accounted := accounted.push .setUnsatisfiable rfl
  allocate literals distance _ accounted := accounted.push (.allocate literals distance) rfl
  markTier key tier _ accounted := accounted.push (.markTier key tier) rfl
  setTouched key conflicts _ accounted := accounted.push (.setTouched key conflicts) rfl
  bumpClause key _ accounted := accounted.push (.bumpClause key) rfl
  attach key _ accounted := accounted.push (.attach key) rfl
  decayClauses _ accounted := accounted.push .decayClauses rfl
  noteCopy key _ accounted := accounted.push (.noteCopy key) rfl
  recordDistance distance _ accounted := accounted.push (.recordDistance distance) rfl
  decayAtoms _ accounted := accounted.push .decayAtoms rfl

theorem accounted_popInbox (accounted : Accounted base logged) (inbox : String) :
    Accounted base (popInbox inbox logged).2 := by
  obtain ⟨asked, listed, onStore⟩ := Logged.visits_popInbox inbox logged
  have nothing : asked.filterMap Call.learntStep? = [] := by
    rw [List.filterMap_eq_nil_iff]
    intro call inside
    have store := onStore call inside
    cases call <;> first | rfl | exact store.elim
  have beside : (popInbox inbox logged).2.world = (popInbox inbox logged.world).2 :=
    congrArg Prod.snd (popInbox_view (Logged.respects_store.at inbox) logged).symm
  rw [Accounted, beside, World.host_popInbox, listed, Array.toList_append,
    List.filterMap_append, nothing, List.append_nil]
  exact accounted

theorem accounted_importInbox (peer : Peer LearntKey) (accounted : Accounted base logged) :
    Accounted base (peer.importInbox logged).2.2 := by
  by_cases level : Host.decisionLevel logged = 0
  · have still := accounted_popInbox accounted peer.config.store.inbox
    cases popping : popInbox peer.config.store.inbox logged with
    | mk outcome popped =>
      rw [popping] at still
      cases outcome with
      | error reason =>
        rw [peer.importInbox_of_unpopped level popping]
        exact still
      | ok records =>
        rw [peer.importInbox_of_popped level popping]
        exact peer.integrateAll_keeps (keeps_accounted base) records still
  · rw [peer.importInbox_of_decided level]
    exact accounted

/-- An import makes of the learnt clauses what its steps do. -/
theorem learnt_importInbox (peer : Peer LearntKey) (world : World σ Solver) :
    (peer.importInbox world).2.2.host.learnt =
      LearntStep.performAll world.host.learnt (peer.learntSteps world) := by
  let logged : Logged LearntKey (World σ Solver) := { world }
  have start : Accounted world.host.learnt logged := rfl
  have unlogged : peer.importInbox logged.world = _ :=
    peer.importInbox_view (Logged.respects_store.at _) Logged.respects_host logged
  have reached : (peer.importInbox world).2.2 = (peer.importInbox logged).2.2.world :=
    congrArg (·.2.2) unlogged
  rw [reached]
  exact peer.accounted_importInbox start

end Peer

/-- What happens to a solver: it is asked something, or a peer imports to it from a store. -/
inductive SolverEvent (σ : Type) where
  | ask (action : SolverAction)
  | importInbox (peer : Peer LearntKey) (store : σ)

namespace SolverEvent

variable {σ : Type} [Store σ]

/-- The solver after something has happened to it. -/
def perform (solver : Solver) : SolverEvent σ → Solver
  | ask action => (action.perform solver).2
  | importInbox peer store => (peer.importInbox (⟨store, solver⟩ : World σ Solver)).2.2.host

/-- What is asked of the learnt clauses of a solver when something happens to it. -/
def learntSteps (solver : Solver) : SolverEvent σ → List LearntStep
  | ask action => action.learntSteps solver.learnt
  | importInbox peer store => peer.learntSteps ⟨store, solver⟩

theorem learnt_perform (event : SolverEvent σ) (solver : Solver) :
    (event.perform solver).learnt = LearntStep.performAll solver.learnt
      (event.learntSteps solver) := by
  cases event with
  | ask action => exact action.learnt_perform solver
  | importInbox peer store => exact peer.learnt_importInbox ⟨store, solver⟩

end SolverEvent

namespace Solver

variable {σ : Type} [Store σ]

/-- The solver after one thing after another has happened to it. -/
def follow (solver : Solver) (events : List (SolverEvent σ)) : Solver :=
  events.foldl SolverEvent.perform solver

/-- All that has been asked of the learnt clauses of a solver. -/
def history (solver : Solver) : List (SolverEvent σ) → List LearntStep
  | [] => []
  | event :: events => event.learntSteps solver ++ (event.perform solver).history events

theorem follow_append (solver : Solver) (front rest : List (SolverEvent σ)) :
    solver.follow (front ++ rest) = (solver.follow front).follow rest := List.foldl_append

/-- The learnt clauses are what has been asked of them. -/
theorem learnt_follow (solver : Solver) (events : List (SolverEvent σ)) :
    (solver.follow events).learnt = LearntStep.performAll solver.learnt
      (solver.history events) := by
  induction events generalizing solver with
  | nil => rfl
  | cons event events ih =>
    rw [history, LearntStep.performAll_append, ← event.learnt_perform]
    exact ih (event.perform solver)

end Solver

end ClauseSharing
