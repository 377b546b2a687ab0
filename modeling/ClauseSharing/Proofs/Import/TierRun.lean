import ClauseSharing.Proofs.Import.Shelving
import ClauseSharing.Proofs.Import.Tiers

/-! # Tiers over whole runs

Any number of imports from any inboxes, whatever they end with and whatever else happens to the
solver in between, put each clause in the tier that its place among the imported clauses calls for
(`ImportRun.tier_law`). The copies that are announced of clauses follow from the clauses in front of
them, so the tiers do (`TierSettings.placements_countsAfter`), and an import goes on where those
before it stopped (`Peer.importInbox_places`). There is no import with which a run could not go on
(`ImportRun.exists_importInbox`). -/

namespace ClauseSharing

open ImportProgress

/-- How often clauses have reached the number of copies for the second tier. -/
def TierSettings.liftedBy (settings : TierSettings) (clauses : List Clause) : Nat :=
  if 2 ≤ settings.minCopies.value.toNat then
    (reached settings.minCopies.value.toNat (settings.sightings clauses)).card
  else 0

namespace TierSettings

variable {settings : TierSettings}

/-- Clauses that are imported one after the other behind others, each with the tier that its place
calls for. -/
def lawfulPlaces (settings : TierSettings) : List Clause → List Clause → List (Clause × Tier)
  | _, [] => []
  | earlier, clause :: clauses =>
    (clause, settings.lawfulTier earlier clause) ::
      settings.lawfulPlaces (earlier ++ [clause]) clauses

theorem lawfulPlaces_append (earlier front back : List Clause) :
    settings.lawfulPlaces earlier (front ++ back) =
      settings.lawfulPlaces earlier front ++ settings.lawfulPlaces (earlier ++ front) back := by
  induction front generalizing earlier with
  | nil => rw [List.append_nil]; rfl
  | cons clause front ih =>
    rw [List.cons_append, lawfulPlaces, lawfulPlaces, ih, List.append_assoc]
    rfl

theorem length_lawfulPlaces (earlier clauses : List Clause) :
    (settings.lawfulPlaces earlier clauses).length = clauses.length := by
  induction clauses generalizing earlier with
  | nil => rfl
  | cons clause clauses ih => exact congrArg Nat.succ (ih _)

/-- The counts are those of the clauses of two literals or more. -/
theorem copiesAfter_countsAfter (earlier clauses : List Clause) :
    copiesAfter settings (settings.countsAfter earlier) clauses =
      settings.countsAfter (earlier ++ clauses.filter fun clause => 2 ≤ clause.length) := by
  induction clauses generalizing earlier with
  | nil => rw [List.filter_nil, List.append_nil]; rfl
  | cons clause clauses ih =>
    rw [copiesAfter, List.filter_cons]
    simp only [decide_eq_true_eq]
    split
    · rw [snd_sighted, ih, List.append_assoc]
      rfl
    · exact ih earlier

section

variable (least : 1 ≤ settings.minCopies.value.toNat)
  (most : settings.minCopies.value.toNat ≤ 4294967294)

include least most

/-- The tiers that the announced copies call for are those that the places call for. -/
theorem placements_countsAfter (earlier clauses : List Clause) :
    placements settings (settings.countsAfter earlier) clauses =
      settings.lawfulPlaces earlier (clauses.filter fun clause => 2 ≤ clause.length) := by
  induction clauses generalizing earlier with
  | nil => rfl
  | cons clause clauses ih =>
    rw [placements, announcements, List.filter_cons]
    simp only [decide_eq_true_eq]
    split
    · rw [List.map_cons, lawfulPlaces, tierOfCopies,
        classify_eq_lawfulTier least most, snd_sighted, ← ih]
      rfl
    · exact ih earlier

theorem liftedBy_concat (clauses : List Clause) (clause : Clause) :
    settings.liftedBy (clauses ++ [clause]) = settings.liftedBy clauses +
      if (sighted settings clause (settings.countsAfter clauses)).1 =
        settings.minCopies.value.toNat then 1 else 0 := by
  simp only [announced_second_iff least most]
  rw [liftedBy, liftedBy]
  by_cases two : 2 ≤ settings.minCopies.value.toNat
  · rw [if_pos two, if_pos two]
    by_cases counts : Counts settings clause
    · rw [sightings_concat counts, card_reached_concat least, List.count_append,
        List.count_singleton_self]
      simp only [counts, two, true_and, and_true]
    · rw [sightings_concat_of_not counts, if_neg fun both => counts both.1, Nat.add_zero]
  · rw [if_neg two, if_neg two, if_neg fun both => two both.2.2]

theorem liftedBy_append (earlier clauses : List Clause) :
    settings.liftedBy (earlier ++ clauses.filter fun clause => 2 ≤ clause.length) =
      settings.liftedBy earlier +
      (announcements settings (settings.countsAfter earlier) clauses).countP
        (·.2 = settings.minCopies.value.toNat) := by
  induction clauses generalizing earlier with
  | nil => rw [List.filter_nil, List.append_nil]; rfl
  | cons clause clauses ih =>
    rw [announcements, List.filter_cons]
    simp only [decide_eq_true_eq]
    split
    · rw [List.countP_cons, snd_sighted, List.append_cons, ih,
        liftedBy_concat least most, Nat.add_assoc, Nat.add_comm (List.countP _ _)]
      simp only [decide_eq_true_eq]
    · exact ih earlier

end

end TierSettings

/-- What an import that takes in these clauses does to the learnt clauses and the counts of copies
of a solver. -/
structure Places (settings : TierSettings) (before after : Solver)
    (taken : List Clause) : Prop where
  contents : after.learnt.contents =
    before.learnt.contents ++ (taken.filter fun clause => 2 ≤ clause.length).map some
  shelved : after.learnt.clauses.size ≤ LearntBase.keyCount → before.shelvedSince after =
    (placements settings before.copies taken).map fun placed => .sole placed.1 placed.2
  copies : after.copies = copiesAfter settings before.copies taken

theorem Places.refl (settings : TierSettings) (solver : Solver) :
    Places settings solver solver [] where
  contents := (List.append_nil _).symm
  shelved _ := by
    rw [Solver.shelvedSince, Nat.sub_self]
    rfl
  copies := rfl

/-- Records that are taken in up to some place put their clauses behind all others. -/
theorem Places.of_stops {σ : Type} {settings : TierSettings} {popped last : World σ Solver}
    {records earlier later : List String} {clauses : List Clause} {ending : Ending}
    (fresh : popped.host.learnt.Fresh)
    (stops : Stops settings popped records earlier clauses later ending last) :
    Places settings popped.host last.host clauses := by
  have totals := totals_worldAfter settings stops.admits.nonempty popped
  obtain ⟨learnt, copies⟩ := stops.ends.stored
  refine ⟨?_, fun left => ?_, copies.trans totals.copies⟩
  · rw [learnt]
    exact totals.contents
  · rw [learnt] at left
    have shelves := shelves_worldAfter settings stops.admits.nonempty fresh left
    rw [← learnt] at shelves
    exact Solver.shelvedSince_of_shelves fresh shelves (learnt ▸ totals.ranked left)

namespace Peer

/-- The clauses that an import takes in: none where it comes to no record, and otherwise those in
front of the record at which it stops. -/
inductive Takes {ω κ : Type} [Store ω] [Host ω κ] (peer : Peer κ) (world : ω) :
    List Clause → Prop where
  | decisions : Host.decisionLevel world ≠ 0 → Takes peer world []
  | unpopped {reason : StoreError} {popped : ω} : Host.decisionLevel world = 0 →
      popInbox peer.config.store.inbox world = (.error reason, popped) → Takes peer world []
  | popped {records earlier later : List String} {clauses : List Clause} {ending : Ending}
      {popped last : ω} : Host.decisionLevel world = 0 →
      popInbox peer.config.store.inbox world = (.ok records, popped) →
      Stops peer.config.tiers popped records earlier clauses later ending last →
      Takes peer world clauses

theorem exists_takes {ω κ : Type} [Store ω] [Host ω κ] (peer : Peer κ) (world : ω) :
    ∃ taken, peer.Takes world taken := by
  by_cases level : Host.decisionLevel world = 0
  · cases popping : popInbox peer.config.store.inbox world with
    | mk outcome popped =>
      cases outcome with
      | error reason => exact ⟨[], .unpopped level popping⟩
      | ok records =>
        obtain ⟨_, clauses, _, _, _, stops⟩ := exists_stops peer.config.tiers records popped
        exact ⟨clauses, .popped level popping stops⟩
  · exact ⟨[], .decisions level⟩

end Peer

/-- Imports of one peer to a solver made from the same configuration, with the clauses of two
literals or more that they took in and how the clauses that they stored stood then. Between imports
the solver may be asked anything but to count copies, and the peer may do anything but import. -/
inductive ImportRun (σ : Type) [Store σ] (config : Config) :
    List Clause → List Placement → Peer LearntKey → Solver → Prop where
  | start {peer : Peer LearntKey} : peer.config = config → peer.tally = {} →
      ImportRun σ config [] [] peer (.starting config)
  | importInbox {imported taken : List Clause} {placed : List Placement}
      {peer after : Peer LearntKey} {solver : Solver} {store : σ} {last : World σ Solver}
      {outcome : Except Fault ImportReport} :
      ImportRun σ config imported placed peer solver →
      peer.importInbox (⟨store, solver⟩ : World σ Solver) = (outcome, after, last) →
      peer.Takes (⟨store, solver⟩ : World σ Solver) taken →
      ImportRun σ config (imported ++ taken.filter fun clause => 2 ≤ clause.length)
        (placed ++ solver.shelvedSince last.host) after last.host
  | asked {imported : List Clause} {placed : List Placement} {peer : Peer LearntKey}
      {solver : Solver} {action : SolverAction} :
      ImportRun σ config imported placed peer solver → (∀ key, action ≠ .noteCopy key) →
      ImportRun σ config imported placed peer (action.perform solver).2
  | elsewhere {imported : List Clause} {placed : List Placement} {peer after : Peer LearntKey}
      {solver : Solver} :
      ImportRun σ config imported placed peer solver → after.config = peer.config →
      after.tally.copiesLifted = peer.tally.copiesLifted →
      ImportRun σ config imported placed after solver

theorem SolverAction.copies_perform {action : SolverAction}
    (uncounted : ∀ key, action ≠ .noteCopy key) (solver : Solver) :
    (action.perform solver).2.copies = solver.copies := by
  cases action with
  | noteCopy key => exact absurd rfl (uncounted key)
  | assignFact literal =>
    rw [perform, Solver.assignFact?]
    cases solver.assignment.assignFact? literal <;> rfl
  | _ => rfl

section

variable {σ : Type} [Store σ]

/-- An import puts the clauses that it takes in behind all others, and counts those that their
copies lift. -/
theorem Peer.importInbox_places {peer after : Peer LearntKey} {store : σ} {solver : Solver}
    {last : World σ Solver} {outcome : Except Fault ImportReport} {taken : List Clause}
    (fresh : solver.learnt.Fresh)
    (done : peer.importInbox (⟨store, solver⟩ : World σ Solver) = (outcome, after, last))
    (takes : peer.Takes (⟨store, solver⟩ : World σ Solver) taken) :
    after.config = peer.config ∧ Places peer.config.tiers solver last.host taken ∧
      after.tally.copiesLifted = peer.tally.copiesLifted +
        (announcements peer.config.tiers solver.copies taken).countP
          (·.2 = peer.config.tiers.minCopies.value.toNat) := by
  have kept {answer : Except StoreError (List String)} {popped : World σ Solver}
      (popping : popInbox peer.config.store.inbox (⟨store, solver⟩ : World σ Solver) =
        (answer, popped)) : popped.host = solver := by
    have host := World.host_popInbox peer.config.store.inbox (⟨store, solver⟩ : World σ Solver)
    rwa [popping] at host
  cases takes with
  | decisions level =>
    rw [peer.importInbox_of_decided level] at done
    cases done
    exact ⟨rfl, .refl .., rfl⟩
  | @unpopped reason popped level popping =>
    rw [peer.importInbox_of_unpopped level popping] at done
    cases done
    rw [kept popping]
    exact ⟨rfl, .refl .., rfl⟩
  | @popped records earlier later clauses ending popped final level popping stops =>
    rw [peer.importInbox_of_popped level popping, peer.integrateAll_of_stops stops] at done
    cases done
    have totals := totals_worldAfter peer.config.tiers stops.admits.nonempty popped
    have quiet : ending.conflicts.copiesLifted = 0 := by cases ending <;> rfl
    rw [← kept popping] at fresh ⊢
    refine ⟨rfl, .of_stops fresh stops, ?_⟩
    rw [← totals.lifted]
    change _ + 0 + _ + ending.conflicts.copiesLifted = _
    rw [quiet]
    rfl

/-- What holds of a run of imports: the clauses stand where their places call for, as long as there
are keys for all that the solver stores, and the counts of copies and of lifted clauses are those of
the clauses. -/
structure Lawful (config : Config) (imported : List Clause) (placed : List Placement)
    (peer : Peer LearntKey) (solver : Solver) : Prop where
  same : peer.config = config
  literals : placed.map Placement.literals = imported
  placed : solver.learnt.clauses.size ≤ LearntBase.keyCount → placed =
    (config.tiers.lawfulPlaces [] imported).map fun placed => .sole placed.1 placed.2
  copies : solver.copies = config.tiers.countsAfter imported
  lifted : peer.tally.copiesLifted = config.tiers.liftedBy imported

theorem Lawful.starting {config : Config} {peer : Peer LearntKey} (same : peer.config = config)
    (fresh : peer.tally = {}) : Lawful config [] [] peer (.starting config) where
  same
  literals := rfl
  placed _ := rfl
  copies := rfl
  lifted := by
    rw [fresh, TierSettings.liftedBy]
    split <;> rfl

/-- Each clause stands where its place calls for. -/
theorem Lawful.stands {config : Config} {imported : List Clause}
    {placed earlier later : List Placement} {one : Placement}
    {peer : Peer LearntKey} {solver : Solver}
    (lawful : Lawful config imported placed peer solver)
    (left : solver.learnt.clauses.size ≤ LearntBase.keyCount)
    (split : placed = earlier ++ one :: later) :
    one = .sole one.literals
      (config.tiers.lawfulTier (earlier.map Placement.literals) one.literals) := by
  have listed : imported = earlier.map Placement.literals ++ one.literals ::
      later.map Placement.literals := by
    rw [← lawful.literals, split, List.map_append, List.map_cons]
  have whole := lawful.placed left
  rw [split, listed, TierSettings.lawfulPlaces_append, TierSettings.lawfulPlaces, List.map_append,
    List.map_cons] at whole
  refine (List.cons.inj (List.append_inj whole ?_).2).1
  rw [List.length_map, TierSettings.length_lawfulPlaces, List.length_map]

namespace ImportRun

variable {config : Config} {imported : List Clause} {placed : List Placement}
  {peer : Peer LearntKey} {solver : Solver}

/-- A run goes on with any import, whatever the inbox holds and however the import ends. -/
theorem exists_importInbox (run : ImportRun σ config imported placed peer solver) (store : σ) :
    let after := peer.importInbox (⟨store, solver⟩ : World σ Solver)
    ∃ taken : List Clause, ImportRun σ config
      (imported ++ taken.filter fun clause => 2 ≤ clause.length)
      (placed ++ solver.shelvedSince after.2.2.host) after.2.1 after.2.2.host := by
  obtain ⟨taken, takes⟩ := peer.exists_takes (⟨store, solver⟩ : World σ Solver)
  exact ⟨taken, .importInbox run rfl takes⟩

/-- What happens to the solver of a run are events as they happen to any. -/
theorem exists_follow (run : ImportRun σ config imported placed peer solver) :
    ∃ events : List (SolverEvent σ), solver = (Solver.starting config).follow events := by
  induction run with
  | start same none => exact ⟨[], rfl⟩
  | @importInbox _ _ _ peer _ _ store _ _ _ done _ ih =>
    obtain ⟨events, rfl⟩ := ih
    refine ⟨events ++ [.importInbox peer store], ?_⟩
    rw [Solver.follow_append]
    exact (congrArg (·.2.2.host) done).symm
  | @asked _ _ _ _ action _ _ ih =>
    obtain ⟨events, rfl⟩ := ih
    refine ⟨events ++ [.ask action], ?_⟩
    rw [Solver.follow_append]
    rfl
  | elsewhere _ _ _ ih => exact ih

theorem fresh (run : ImportRun σ config imported placed peer solver) : solver.learnt.Fresh := by
  obtain ⟨events, rfl⟩ := run.exists_follow
  exact Solver.fresh_follow config events

theorem lawful (least : 1 ≤ config.tiers.minCopies.value.toNat)
    (most : config.tiers.minCopies.value.toNat ≤ 4294967294)
    (run : ImportRun σ config imported placed peer solver) :
    Lawful config imported placed peer solver := by
  induction run with
  | start same none => exact .starting same none
  | @importInbox _ taken _ peer _ solver store _ _ before done takes ih =>
    obtain ⟨rfl, literals, stood, copies, lifted⟩ := ih
    obtain ⟨config, places, lifts⟩ := Peer.importInbox_places before.fresh done takes
    have grown := SolverEvent.size_le_perform (.importInbox peer store : SolverEvent σ) solver
    rw [SolverEvent.perform, done] at grown
    refine ⟨config, ?_, fun left => ?_, ?_, ?_⟩
    · rw [List.map_append, literals, Solver.map_literals_shelvedSince places.contents]
    · rw [places.shelved left, stood (Nat.le_trans grown left), copies,
        TierSettings.placements_countsAfter least most,
        TierSettings.lawfulPlaces_append, List.map_append]
      rfl
    · rw [places.copies, copies, TierSettings.copiesAfter_countsAfter]
    · rw [lifts, lifted, copies, TierSettings.liftedBy_append least most]
  | @asked _ _ _ solver action _ uncounted ih =>
    have grown := SolverEvent.size_le_perform (.ask action : SolverEvent σ) solver
    exact ⟨ih.same, ih.literals, fun left => ih.placed (Nat.le_trans grown left),
      (action.copies_perform uncounted solver).trans ih.copies, ih.lifted⟩
  | elsewhere _ same unlifted ih =>
    exact ⟨same.trans ih.same, ih.literals, ih.placed, ih.copies, unlifted.trans ih.lifted⟩

/-- **The tier law.** Over any run of imports, each clause of two literals or more that is taken in
is stored, and as long as there are keys for all that the solver stores, it is put in the tier that
its length and the number of its copies so far call for: it says so, and its key is in the list of
that tier and in no other one. Among counted copies of one length, a later one is in no lesser tier.
The count of lifted clauses is that of the sets of literals of which there have been enough copies
for the second tier, and nothing where one copy would do. -/
theorem tier_law (least : 1 ≤ config.tiers.minCopies.value.toNat)
    (most : config.tiers.minCopies.value.toNat ≤ 4294967294)
    (run : ImportRun σ config imported placed peer solver) :
    placed.map Placement.literals = imported ∧
    (solver.learnt.clauses.size ≤ LearntBase.keyCount →
      (∀ earlier one later, placed = earlier ++ one :: later →
        one.tier = config.tiers.lawfulTier (earlier.map Placement.literals) one.literals ∧
          one.homes = [one.tier]) ∧
      ∀ earlier one between other later, placed = earlier ++ one :: between ++ other :: later →
        one.literals.distance ≤ config.tiers.copyCut.value.toNat →
        other.literals.toFinset = one.literals.toFinset →
        other.literals.length = one.literals.length → one.tier.worth ≤ other.tier.worth) ∧
    peer.tally.copiesLifted =
      if 2 ≤ config.tiers.minCopies.value.toNat then
        (reached config.tiers.minCopies.value.toNat (config.tiers.sightings imported)).card
      else 0 := by
  have lawful := run.lawful least most
  refine ⟨lawful.literals, fun left => ⟨fun earlier one later split => ?_, ?_⟩, lawful.lifted⟩
  · have stands := lawful.stands left split
    have tier := congrArg Placement.tier stands
    exact ⟨tier, (congrArg Placement.homes stands).trans (congrArg (fun tier => [tier]) tier.symm)⟩
  · intro earlier one between other later split counts same length
    have otherTier := congrArg Placement.tier (lawful.stands left split)
    rw [List.append_assoc, List.cons_append] at split
    have oneTier := congrArg Placement.tier (lawful.stands left split)
    rw [oneTier, otherTier, List.map_append, List.map_cons]
    exact TierSettings.worth_lawfulTier_le counts same length

/-- A clause of eight literals, the first eight atoms. -/
def eight : Clause := (List.range 8).map fun atom => ⟨atom.toUInt32, true⟩

/-- Three copies of one clause, of which the last has its literals in another order. -/
def copies : List Clause := [eight, eight, eight.reverse]

theorem tier_law_copies :
    ∃ peer solver,
      ImportRun ScriptedStore {} copies
        [.sole eight .active, .sole eight .second, .sole eight.reverse .core] peer solver ∧
      solver.learnt.clauses.size ≤ LearntBase.keyCount ∧ peer.tally.copiesLifted = 1 := by
  let world : World ScriptedStore Solver :=
    ⟨{ length := some 3, records := some (copies.map Record.encode) }, .starting {}⟩
  have stops : Stops ({} : Peer LearntKey).config.tiers world (copies.map Record.encode)
      (copies.map Record.encode) copies [] .complete _ :=
    ⟨(List.append_nil _).symm, admits_encode world (by decide), .complete⟩
  have takes : ({} : Peer LearntKey).Takes world copies := .popped rfl rfl stops
  obtain ⟨⟨outcome, after, last⟩, done⟩ :
    ∃ result, ({} : Peer LearntKey).importInbox world = result := ⟨_, rfl⟩
  have start : ImportRun ScriptedStore {} [] [] ({} : Peer LearntKey) (.starting {}) :=
    .start rfl rfl
  have left : last.host.learnt.clauses.size ≤ LearntBase.keyCount := by
    obtain ⟨-, places, -⟩ := Peer.importInbox_places start.fresh done takes
    rw [← LearntBase.length_contents, places.contents]
    decide
  have run : ImportRun ScriptedStore {} copies _ after last.host := .importInbox start done takes
  obtain ⟨imported, places, lifted⟩ := run.tier_law (by decide) (by decide)
  obtain ⟨stands, -⟩ := places left
  generalize [] ++ Solver.shelvedSince _ last.host = placed at run imported stands
  obtain ⟨one, _, rfl, oneClause, behind⟩ := List.map_eq_cons_iff.mp imported
  obtain ⟨two, _, rfl, twoClause, final⟩ := List.map_eq_cons_iff.mp behind
  obtain ⟨three, _, rfl, threeClause, none⟩ := List.map_eq_cons_iff.mp final
  obtain rfl := List.map_eq_nil_iff.mp none
  have active : ({} : Config).tiers.lawfulTier [] eight = .active := by decide +kernel
  have second : ({} : Config).tiers.lawfulTier [eight] eight = .second := by decide +kernel
  have core : ({} : Config).tiers.lawfulTier [eight, eight] eight.reverse = .core := by
    decide +kernel
  obtain ⟨oneTier, oneHome⟩ := stands [] one _ rfl
  obtain ⟨twoTier, twoHome⟩ := stands [one] two _ rfl
  obtain ⟨threeTier, threeHome⟩ := stands [one, two] three _ rfl
  rw [List.map_nil, oneClause, active] at oneTier
  rw [List.map_singleton, oneClause, twoClause, second] at twoTier
  rw [List.map_cons, List.map_singleton, oneClause, twoClause, threeClause, core] at threeTier
  rw [Placement.eq_sole oneClause oneTier oneHome, Placement.eq_sole twoClause twoTier twoHome,
    Placement.eq_sole threeClause threeTier threeHome] at run
  exact ⟨after, last.host, run, left, lifted.trans (by decide +kernel)⟩

end ImportRun

end

end ClauseSharing
