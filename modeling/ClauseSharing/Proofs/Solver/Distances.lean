import ClauseSharing.Proofs.Import.Reordering
import ClauseSharing.Proofs.Solver.History

/-! # The distances that a solver remembers

Of all the distances that a solver was told it keeps how many they were, the latest fifty, and the
sum of all of them with each one capped (`Branching.Remembers`). An import tells an adaptive solver
the distance of each clause that it comes to, the one that ends it included (`Knowledge.processed`),
so what is remembered follows from what has happened to the solver (`Solver.remembers_distances`).
Where the solver is not adaptive an import leaves all of this as it is, and the weight of bumps too
(`SolverEvent.branching_importInbox_idle`). -/

namespace ClauseSharing

namespace Branching

/-- What is kept of distances told one after the other: their number, the latest fifty, and the sum
of all of them, of each at most fifty. -/
structure Remembers (branching : Branching) (told : List Nat) : Prop where
  recorded : branching.recorded = told.length
  window : branching.window = told.drop (told.length - 50)
  distanceSum : branching.distanceSum = told.foldl (fun sum distance => sum + min distance 50) 0

theorem unweighted_recordAll (branching : Branching) (distances : List Nat) :
    (branching.recordAll distances).unweighted = branching.unweighted.recordAll distances := by
  induction distances generalizing branching with
  | nil => rfl
  | cons distance distances ih => exact ih (branching.record distance)

namespace Remembers

variable {branching other : Branching} {told : List Nat}

theorem starting (settings : ActivitySettings) : (Branching.starting settings).Remembers [] :=
  ⟨rfl, rfl, rfl⟩

/-- As many distances are in the window as were told, and fifty at most. -/
theorem length_window (remembers : branching.Remembers told) :
    branching.window.length = min told.length 50 := by
  rw [remembers.window, List.length_drop]
  omega

/-- The oldest distance is pushed out of the window from the fifty-first on, and never out of the
sum. -/
theorem record (remembers : branching.Remembers told) (distance : Nat) :
    (branching.record distance).Remembers (told ++ [distance]) where
  recorded := by
    rw [List.length_append, ← remembers.recorded]
    rfl
  window := by
    have length := remembers.length_window
    have kept : (if branching.window.length = windowLength then branching.window.drop 1
        else branching.window) = told.drop (told.length + 1 - 50) := by
      rw [length, windowLength, remembers.window]
      split
      · rw [List.drop_drop]
        exact congrArg (told.drop ·) (by omega)
      · exact congrArg (told.drop ·) (by omega)
    rw [List.length_append, List.length_singleton, List.drop_append_of_le_length (by omega), ← kept]
    rfl
  distanceSum := by
    rw [List.foldl_append, ← remembers.distanceSum]
    rfl

theorem recordAll (remembers : branching.Remembers told) (distances : List Nat) :
    (branching.recordAll distances).Remembers (told ++ distances) := by
  induction distances generalizing branching told with
  | nil =>
    rw [List.append_nil]
    exact remembers
  | cons distance distances ih =>
    have next := ih (remembers.record distance)
    rw [List.append_assoc] at next
    exact next

example (settings : ActivitySettings) :
    ((Branching.starting settings).recordAll (List.range 60)).window = List.range' 10 50 :=
  ((starting settings).recordAll (List.range 60)).window.trans (by decide)

/-- The weight of bumps is not part of the memory. -/
theorem of_unweighted (remembers : branching.Remembers told)
    (same : other.unweighted = branching.unweighted) : other.Remembers told where
  recorded := (congrArg Branching.recorded same).trans remembers.recorded
  window := (congrArg Branching.window same).trans remembers.window
  distanceSum := (congrArg Branching.distanceSum same).trans remembers.distanceSum

end Remembers

end Branching

namespace Knowledge

instance (known : Knowledge) (clause : Clause) : Decidable (known.Opposes clause) :=
  match clause with
  | [] => isFalse (not_opposes_of_length Nat.zero_ne_one)
  | [_] => decidable_of_iff _ opposes_singleton.symm
  | _ :: _ :: _ => isFalse (not_opposes_of_length (Nat.succ_succ_ne_one _))

/-- The clauses that records hold, up to the record that ends an import: one that cannot be read,
which gives none, or one with the empty clause, or with a unit against what is known by then. -/
def processed (known : Knowledge) : List String → List Clause
  | [] => []
  | record :: records =>
    match Record.decode record with
    | .error _ => []
    | .ok clause =>
      clause :: if clause = [] ∨ known.Opposes clause then
        [] else (known.absorb clause).processed records

end Knowledge

namespace ImportProgress

variable {σ : Type} {settings : TierSettings} {world last : World σ Solver}
  {records earlier later : List String} {clauses : List Clause} {ending : Ending}

theorem opposes_iff_knowledge {clause : Clause} :
    Opposes world clause ↔ world.host.knowledge.Opposes clause := by
  constructor
  · intro against
    obtain ⟨literal, rfl, -⟩ := id against
    exact Knowledge.opposes_singleton.mpr (opposes_iff.mp against)
  · intro against
    obtain ⟨literal, rfl, -⟩ := id against
    exact opposes_iff.mpr (Knowledge.opposes_singleton.mp against)

/-- The clause that ends an import is the last one that is processed. -/
theorem Ends.processed (ends : Ends world later ending last) :
    (world.host.knowledge.processed later).map Clause.distance = ending.distances := by
  cases ends with
  | complete => rfl
  | unreadable failed =>
    rw [Knowledge.processed, failed]
    rfl
  | empty none =>
    rw [Knowledge.processed, none]
    rfl
  | opposed read against =>
    rw [Knowledge.processed, read]
    dsimp only
    rw [if_pos (.inr (opposes_iff_knowledge.mp against))]
    rfl

/-- Processed are the clauses that are taken in, and the one that ends the import. -/
theorem Admits.processed (admits : Admits settings world earlier clauses)
    (ends : Ends (worldAfter settings clauses world) later ending last) :
    (world.host.knowledge.processed (earlier ++ later)).map Clause.distance =
      clauses.map Clause.distance ++ ending.distances := by
  induction admits with
  | none => exact ends.processed
  | @more world record records clause clauses read unoffending _ ih =>
    have goesOn : ¬(clause = [] ∨ world.host.knowledge.Opposes clause) := by
      rintro (rfl | against)
      · exact unoffending (.empty read)
      · exact unoffending (.opposed read (opposes_iff_knowledge.mpr against))
    have behind := ih ends
    rw [knowledge_effect settings (fun none => goesOn (.inl none))] at behind
    rw [List.cons_append, Knowledge.processed, read]
    dsimp only
    rw [if_neg goesOn, List.map_cons, List.map_cons, List.cons_append, behind]

example :
    (Knowledge.processed ⟨{}, true, []⟩ ["1 0", "2 -3 0", "-1 0", "4 5 0"]).map Clause.distance =
      [1, 2, 1] := by
  decide +kernel

/-- What the ending of an import adds to what decisions are based on. -/
theorem Ends.branching (ends : Ends world later ending last) :
    last.host.branching = world.host.branching.recordAll
      (if world.host.branching.adaptive then ending.distances else []) := by
  have nothing : world.host.branching = world.host.branching.recordAll
      (if world.host.branching.adaptive then [] else []) := by
    rw [ite_self]
    rfl
  cases ends with
  | complete => exact nothing
  | unreadable failed => exact nothing
  | empty none => exact branching_recordDistance [] world
  | @opposed _ _ literal read against => exact branching_recordDistance [literal] world

/-- An import tells an adaptive solver the distances of the clauses that are processed, and nothing
to another one. -/
theorem Stops.branching (stops : Stops settings world records earlier clauses later ending last) :
    last.host.branching.unweighted = world.host.branching.unweighted.recordAll
      (if world.host.branching.adaptive then
        (world.host.knowledge.processed records).map Clause.distance else []) := by
  obtain ⟨rfl, admits, ends⟩ := stops
  have totals := totals_worldAfter settings admits.nonempty world
  have ended := congrArg Branching.unweighted ends.branching
  rw [Branching.unweighted_recordAll, totals.branching, totals.adaptive,
    ← Branching.recordAll_append] at ended
  rw [ended, admits.processed ends]
  split <;> rfl

theorem branching_settle_idle (key : LearntKey) (idle : world.host.branching.adaptive = false) :
    (settle key world).host.branching = world.host.branching := by
  have told : Host.isAdaptive (Host.attach key world) = false := idle
  simp only [settle, told]
  rfl

/-- A clause that is given to a solver that is not adaptive bears on no decisions. -/
theorem branching_effect_idle (settings : TierSettings) (clause : Clause)
    (idle : world.host.branching.adaptive = false) :
    (effect settings clause world).host.branching = world.host.branching := by
  have untold : (recordDistance clause world).host.branching = world.host.branching := by
    rw [branching_recordDistance, idle]
    rfl
  match clause with
  | [] => exact untold
  | [literal] => exact (branching_integrateUnit ⟨{}, {}, _⟩ literal).trans untold
  | first :: second :: rest =>
    rw [effect_of_plural settings (Nat.le_add_left ..), branching_settle_idle]
    · rw [branching_enterTier, noteCopy_eq]
      exact untold
    · rw [branching_enterTier, noteCopy_eq]
      exact (congrArg Branching.adaptive untold).trans idle

theorem branching_worldAfter_idle (settings : TierSettings) (clauses : List Clause)
    (idle : world.host.branching.adaptive = false) :
    (worldAfter settings clauses world).host.branching = world.host.branching := by
  induction clauses generalizing world with
  | nil => rfl
  | cons clause clauses ih =>
    have first := branching_effect_idle settings clause idle
    exact (ih (by rw [first]; exact idle)).trans first

/-- An import leaves all that a solver that is not adaptive bases decisions on. -/
theorem Stops.branching_idle
    (stops : Stops settings world records earlier clauses later ending last)
    (idle : world.host.branching.adaptive = false) :
    last.host.branching = world.host.branching := by
  have taken := branching_worldAfter_idle settings clauses idle
  rw [stops.ends.branching, taken, idle]
  rfl

end ImportProgress

namespace SolverEvent

variable {σ : Type} [Store σ]

/-- The distances that a solver is told when something happens to it. An import tells them to an
adaptive solver at decision level zero, if the inbox is popped. -/
def distances (solver : Solver) : SolverEvent σ → List Nat
  | ask (.recordDistance distance) => [distance]
  | ask _ => []
  | importInbox peer store =>
    if solver.branching.adaptive ∧ solver.assignment.level = 0 then
      match (Peer.popInbox peer.config.store.inbox store).1 with
      | .ok records => (solver.knowledge.processed records).map fun clause => min clause.length 255
      | .error _ => []
    else []

variable (solver : Solver) (peer : Peer LearntKey) (store : σ)

theorem branching_importInbox :
    ((importInbox peer store).perform solver).branching.unweighted =
      (solver.branching.recordAll ((importInbox peer store).distances solver)).unweighted := by
  rw [perform, distances]
  by_cases level : solver.assignment.level = 0
  · cases popping : Peer.popInbox peer.config.store.inbox store with
    | mk outcome popped =>
      have beside : Peer.popInbox peer.config.store.inbox (⟨store, solver⟩ : World σ Solver) =
          (outcome, ⟨popped, solver⟩) := World.popInbox_of_store popping
      cases outcome with
      | error reason =>
        rw [peer.importInbox_of_unpopped level beside, ite_self]
        rfl
      | ok records =>
        obtain ⟨earlier, clauses, later, ending, last, stops⟩ :=
          ImportProgress.exists_stops peer.config.tiers records (⟨popped, solver⟩ : World σ Solver)
        rw [peer.importInbox_of_popped level beside,
          peer.integrateAll_of_stops stops, stops.branching, Branching.unweighted_recordAll]
        simp only [level, and_true]
        rfl
  · rw [peer.importInbox_of_decided level, if_neg fun both => level both.2]
    rfl

/-- **An import changes nothing that a solver bases decisions on if the solver is not adaptive.** -/
theorem branching_importInbox_idle (idle : solver.branching.adaptive = false) :
    ((importInbox peer store).perform solver).branching = solver.branching := by
  rw [perform]
  rcases peer.importInbox_untaken_or_taken (⟨store, solver⟩ : World σ Solver) with
    ⟨reason, last, same, imported⟩ | ⟨records, popped, same, _, imported⟩
  · rw [imported]
    exact congrArg Solver.branching same
  · obtain ⟨earlier, clauses, later, ending, last, stops⟩ :=
      ImportProgress.exists_stops peer.config.tiers records popped
    rw [imported, peer.integrateAll_of_stops stops]
    have host := congrArg Solver.branching same
    exact (stops.branching_idle ((congrArg Branching.adaptive host).trans idle)).trans host

variable {solver}

/-- What is remembered behind one event. -/
theorem remembers_perform {told : List Nat} (remembers : solver.branching.Remembers told)
    (event : SolverEvent σ) :
    (event.perform solver).branching.Remembers (told ++ event.distances solver) := by
  cases event with
  | importInbox peer store =>
    exact (remembers.recordAll _).of_unweighted (branching_importInbox solver peer store)
  | ask action =>
    have quiet {next : Branching} (recorded : next.recorded = solver.branching.recorded)
        (window : next.window = solver.branching.window)
        (distanceSum : next.distanceSum = solver.branching.distanceSum) :
        next.Remembers (told ++ []) := by
      rw [List.append_nil]
      exact ⟨recorded.trans remembers.recorded, window.trans remembers.window,
        distanceSum.trans remembers.distanceSum⟩
    cases action with
    | recordDistance distance => exact remembers.record distance
    | assignFact literal =>
      rw [perform, SolverAction.perform_assignFact]
      split <;> exact quiet rfl rfl rfl
    | _ => exact quiet rfl rfl rfl

end SolverEvent

namespace Solver

variable {σ : Type} [Store σ]

/-- All the distances that a solver has been told. -/
def distancesTold (solver : Solver) : List (SolverEvent σ) → List Nat
  | [] => []
  | event :: events => event.distances solver ++ (event.perform solver).distancesTold events

theorem remembers_follow {solver : Solver} {told : List Nat}
    (remembers : solver.branching.Remembers told) (events : List (SolverEvent σ)) :
    (solver.follow events).branching.Remembers (told ++ solver.distancesTold events) := by
  induction events generalizing solver told with
  | nil =>
    rw [distancesTold, List.append_nil]
    exact remembers
  | cons event events ih =>
    have behind := ih (SolverEvent.remembers_perform remembers event)
    rw [List.append_assoc] at behind
    exact behind

/-- Distances that are told directly are told as they are. -/
theorem distancesTold_map_recordDistance (solver : Solver) (distances : List Nat) :
    solver.distancesTold
      (distances.map fun distance => (.ask (.recordDistance distance) : SolverEvent σ)) =
        distances := by
  induction distances generalizing solver with
  | nil => rfl
  | cons distance distances ih => exact congrArg (distance :: ·) (ih _)

/-- **A solver remembers the latest distances, and the sum of all.** Whatever has happened to a
solver, it keeps how many distances it was told, the latest fifty of them in order, and the sum of
all of them, each as far as it is at most fifty. It was told those that were recorded directly, as
they were, and for each import in which it was adaptive those of the clauses that were processed,
which are their lengths up to 255. Where it is not adaptive an import leaves all of this and the
weight of bumps as they are. -/
theorem remembers_distances (config : Config) :
    (∀ events : List (SolverEvent σ),
      ((starting config).follow events).branching.Remembers
        ((starting config).distancesTold events)) ∧
    (∀ distances : List Nat, (starting config).distancesTold
      (distances.map fun distance => (.ask (.recordDistance distance) : SolverEvent σ)) =
        distances) ∧
    ∀ (solver : Solver) (peer : Peer LearntKey) (store : σ), solver.branching.adaptive = false →
      ((SolverEvent.importInbox peer store).perform solver).branching = solver.branching :=
  have fresh : (starting config).branching.Remembers [] := .starting config.activity
  ⟨fun events => remembers_follow fresh events,
    distancesTold_map_recordDistance (starting config), SolverEvent.branching_importInbox_idle⟩

end Solver

end ClauseSharing
