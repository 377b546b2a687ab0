import ClauseSharing.Observation.Scripted
import ClauseSharing.Proofs.Solver.History
import ClauseSharing.Proofs.Solver.Soundness
import Mathlib.Data.Finset.Card
import Mathlib.Data.List.Induction

/-! # Values and the trail

As long as literals only come to hold while their atoms have no value, the atoms with values are
those on the trail, each there once (`Assignment.Agrees`), so the values follow from the trail. What
stands on the trail where no decision does is never taken back (`Assignment.Retains`), and going
back after any number of decisions restores what there was before the first of them
(`Assignment.Above.backjump`). An import only goes on with the trail, by one literal for each unit
that it counts as useful.

There are as many levels as atoms. So the level can be zero although decisions stand, but every atom
then has a value (`Assignment.Agrees.valued_of_level`), and nothing more can come to hold that going
back would take away. -/

namespace ClauseSharing

namespace Assignment

/-- Whether each atom on the trail is there once, with the value that it has, and no other atom has
any. -/
structure Agrees (assignment : Assignment) : Prop where
  once : (assignment.trail.toList.map Literal.atom).Nodup
  values : ∀ atom value,
    assignment.value? atom = some value ↔ ⟨atom, value⟩ ∈ assignment.trail.toList

/-- Whether one assignment comes of another by literals that came to hold, each while its atom had
no value. -/
inductive Grows (start : Assignment) : List Literal → Assignment → Prop where
  | refl : Grows start [] start
  | assign {added : List Literal} {last : Assignment} {literal : Literal} :
      Grows start added last → last.value? literal.atom = none →
      Grows start (added ++ [literal]) (last.assign literal)

/-- Whether a trail goes on from the end of another, and no decision was made before that. -/
structure Retains (base assignment : Assignment) : Prop where
  trail : base.trail.toList <+: assignment.trail.toList
  behind : ∀ start, assignment.decisions[0]? = some start → base.trail.size ≤ start

/-- Whether the first decision that stands was made where another trail ended. -/
structure Above (base assignment : Assignment) : Prop extends Retains base assignment where
  first : assignment.decisions[0]? = some base.trail.size

variable {assignment base start last other : Assignment} {literal : Literal} {added : List Literal}

theorem agrees_empty : Agrees {} where
  once := List.nodup_nil
  values atom value := by
    rw [value?, Std.ExtTreeMap.getElem?_empty]
    exact iff_of_false (fun found => Option.some_ne_none value found.symm) List.not_mem_nil

/-- The values follow from the trail. -/
theorem Agrees.eq_of_trail (agrees : assignment.Agrees) (others : other.Agrees)
    (trail : assignment.trail = other.trail) (decisions : assignment.decisions = other.decisions) :
    assignment = other := by
  have values : assignment.values = other.values := by
    apply Std.ExtTreeMap.ext_getElem?
    intro atom
    apply Option.ext
    intro value
    have same := others.values atom value
    rw [← trail] at same
    exact (agrees.values atom value).trans same.symm
  cases assignment
  cases other
  congr

theorem Agrees.assign (agrees : assignment.Agrees) (free : assignment.value? literal.atom = none) :
    (assignment.assign literal).Agrees := by
  have pushed : (assignment.assign literal).trail.toList = assignment.trail.toList ++ [literal] :=
    Array.toList_push
  have absent (value : Bool) : ⟨literal.atom, value⟩ ∉ assignment.trail.toList := by
    rw [← agrees.values, free]
    exact fun found => Option.some_ne_none value found.symm
  constructor
  · rw [pushed, List.map_append, List.map_singleton, List.nodup_append]
    refine ⟨agrees.once, List.pairwise_singleton _ _, ?_⟩
    intro atom before last here
    obtain ⟨held, inside, rfl⟩ := List.mem_map.mp before
    rw [List.mem_singleton.mp here]
    intro same
    exact absent held.positive (by rw [← same]; exact inside)
  · intro atom value
    rw [value?_assign, pushed, List.mem_append, List.mem_singleton]
    split
    · rename_i same
      subst same
      rw [or_iff_right (absent value), Option.some.injEq, Literal.ext_iff]
      exact ⟨fun equal => ⟨rfl, equal.symm⟩, fun both => both.2.symm⟩
    · rename_i apart
      rw [or_iff_left (fun same => apart (congrArg Literal.atom same).symm), agrees.values]

theorem Agrees.decide (agrees : assignment.Agrees) (free : assignment.value? literal.atom = none) :
    (assignment.decide literal).Agrees :=
  ⟨(agrees.assign free).once, (agrees.assign free).values⟩

/-- Going back keeps the trail up to the first decision. -/
theorem trail_backjump {start : Nat} (first : assignment.decisions[0]? = some start) :
    assignment.backjump.trail.toList = assignment.trail.toList.take start := by
  rw [backjump, first]
  simp only [Array.take_eq_extract, Array.toList_extract, List.extract_eq_take_drop, Nat.sub_zero,
    List.drop_zero]

/-- What is kept of the trail and what came with the first decision or later are the trail. -/
theorem trail_backjump_append (assignment : Assignment) :
    assignment.backjump.trail.toList ++ assignment.tentative = assignment.trail.toList := by
  cases first : assignment.decisions[0]? with
  | none => rw [backjump_of_decisions first, tentative_of_none first, List.append_nil]
  | some start => rw [trail_backjump first, tentative_of_some first, List.take_append_drop]

theorem Agrees.backjump (agrees : assignment.Agrees) : assignment.backjump.Agrees := by
  have once := agrees.once
  rw [← trail_backjump_append, List.map_append, List.nodup_append] at once
  obtain ⟨kept, _, apart⟩ := once
  refine ⟨kept, fun atom value => ?_⟩
  rw [value?_backjump]
  split
  · rename_i dropped
    refine iff_of_false (fun found => Option.some_ne_none value found.symm) fun inside => ?_
    exact apart atom (List.mem_map_of_mem inside) atom dropped rfl
  · rename_i undropped
    have earlier : ⟨atom, value⟩ ∉ assignment.tentative :=
      fun inside => undropped (List.mem_map_of_mem inside)
    rw [agrees.values, ← trail_backjump_append, List.mem_append, or_iff_left earlier]

theorem Retains.refl (undecided : base.decisions = #[]) : base.Retains base where
  trail := List.prefix_refl _
  behind start first := by
    rw [undecided] at first
    cases first

theorem Retains.assign (retains : base.Retains assignment) (literal : Literal) :
    base.Retains (assignment.assign literal) where
  trail := by
    have pushed : (assignment.assign literal).trail.toList = assignment.trail.toList ++ [literal] :=
      Array.toList_push
    rw [pushed]
    exact retains.trail.trans (List.prefix_append _ _)
  behind := retains.behind

theorem Retains.size_le (retains : base.Retains assignment) :
    base.trail.size ≤ assignment.trail.size := by
  rw [← Array.length_toList, ← Array.length_toList]
  exact retains.trail.length_le

theorem first_decide (assignment : Assignment) (literal : Literal) :
    (assignment.decide literal).decisions[0]? =
      if assignment.decisions = #[] then some assignment.trail.size
      else assignment.decisions[0]? := by
  rw [decide, Array.getElem?_push]
  by_cases undecided : assignment.decisions = #[]
  · have none : 0 = assignment.decisions.size := (congrArg Array.size undecided).symm
    rw [if_pos undecided, if_pos none]
  · have some : 0 ≠ assignment.decisions.size :=
      fun same => undecided (Array.eq_empty_of_size_eq_zero same.symm)
    rw [if_neg undecided, if_neg some]

theorem Retains.decide (retains : base.Retains assignment) (literal : Literal) :
    base.Retains (assignment.decide literal) where
  trail := (retains.assign literal).trail
  behind start first := by
    rw [first_decide] at first
    split at first
    · cases first
      exact retains.size_le
    · exact retains.behind start first

theorem Retains.backjump (retains : base.Retains assignment) :
    base.Retains assignment.backjump := by
  cases first : assignment.decisions[0]? with
  | none =>
    rw [backjump_of_decisions first]
    exact retains
  | some start =>
    constructor
    · rw [trail_backjump first, List.prefix_take_iff]
      exact ⟨retains.trail, retains.behind start first⟩
    · intro start again
      rw [decisions_backjump] at again
      cases again

/-- What stands on the trail keeps its place. -/
theorem Retains.getElem?_trail (retains : base.Retains assignment) {index : Nat}
    (here : base.trail[index]? = some literal) : assignment.trail[index]? = some literal := by
  rw [← Array.getElem?_toList] at here ⊢
  obtain ⟨rest, whole⟩ := retains.trail
  rw [← whole, List.getElem?_append_left (List.getElem?_eq_some_iff.mp here).1, here]

/-- What stands on the trail has its value. -/
theorem Retains.value? (retains : base.Retains assignment) (before : base.Agrees)
    (agrees : assignment.Agrees) {atom : Atom} {value : Bool}
    (held : base.value? atom = some value) :
    assignment.value? atom = some value := by
  rw [agrees.values]
  exact retains.trail.subset ((before.values atom value).mp held)

theorem Above.assign (above : base.Above assignment) (literal : Literal) :
    base.Above (assignment.assign literal) :=
  ⟨above.toRetains.assign literal, above.first⟩

theorem Above.decide (above : base.Above assignment) (literal : Literal) :
    base.Above (assignment.decide literal) := by
  refine ⟨above.toRetains.decide literal, ?_⟩
  rw [first_decide, if_neg, above.first]
  intro undecided
  have first := above.first
  rw [undecided] at first
  cases first

/-- The first decision stands where the trail ended. -/
theorem above_decide (undecided : base.decisions = #[]) (literal : Literal) :
    base.Above (base.decide literal) := by
  refine ⟨(Retains.refl undecided).decide literal, ?_⟩
  rw [first_decide, if_pos undecided]

/-- **Going back restores all that was there before the first decision.** -/
theorem Above.backjump (above : base.Above assignment) (undecided : base.decisions = #[])
    (before : base.Agrees) (agrees : assignment.Agrees) : assignment.backjump = base := by
  apply agrees.backjump.eq_of_trail before
  · apply Array.toList_inj.mp
    rw [trail_backjump above.first, ← Array.length_toList]
    exact (List.prefix_iff_eq_take.mp above.trail).symm
  · rw [decisions_backjump, undecided]

/-- A trail that is as long as there are atoms has a value for each of them. -/
theorem Agrees.valued_of_size (agrees : assignment.Agrees)
    (full : levelCount ≤ assignment.trail.size) (atom : Atom) : assignment.value? atom ≠ none := by
  let numbers := assignment.trail.toList.map fun literal => literal.atom.toNat
  have once : numbers.Nodup := by
    have apart := agrees.once.map (f := UInt32.toNat) fun _ _ => UInt32.toNat_inj.mp
    rwa [List.map_map] at apart
  have below : numbers.toFinset ⊆ Finset.range levelCount := by
    intro number inside
    obtain ⟨literal, -, rfl⟩ := List.mem_map.mp (List.mem_toFinset.mp inside)
    exact Finset.mem_range.mpr literal.atom.toNat_lt
  have many : (Finset.range levelCount).card ≤ numbers.toFinset.card := by
    rw [Finset.card_range, List.toFinset_card_of_nodup once, List.length_map, Array.length_toList]
    exact full
  have inside : atom.toNat ∈ numbers.toFinset := by
    rw [Finset.eq_of_subset_of_card_le below many, Finset.mem_range]
    exact atom.toNat_lt
  obtain ⟨literal, held, same⟩ := List.mem_map.mp (List.mem_toFinset.mp inside)
  have valued := (agrees.values literal.atom literal.positive).mpr held
  rw [UInt32.toNat_inj.mp same] at valued
  rw [valued]
  exact Option.some_ne_none _

/-- At level zero no decision stands, unless as many do as there are levels. -/
theorem Agrees.valued_of_level (agrees : assignment.Agrees)
    (fewer : assignment.decisions.size ≤ assignment.trail.size) (level : assignment.level = 0)
    (standing : assignment.decisions ≠ #[]) (atom : Atom) : assignment.value? atom ≠ none := by
  have some : 0 < assignment.decisions.size := Array.size_pos_iff.mpr standing
  have whole : levelCount ≤ assignment.decisions.size :=
    Nat.le_of_dvd some (Nat.dvd_of_mod_eq_zero level)
  exact agrees.valued_of_size (Nat.le_trans whole fewer) atom

theorem Grows.trail (grows : start.Grows added last) :
    last.trail.toList = start.trail.toList ++ added := by
  induction grows with
  | refl => rw [List.append_nil]
  | assign grows free ih => rw [← List.append_assoc, ← ih, Assignment.assign, Array.toList_push]

theorem Grows.decisions (grows : start.Grows added last) : last.decisions = start.decisions := by
  induction grows with
  | refl => rfl
  | assign grows free ih => exact ih

/-- Nothing comes to hold where every atom has a value. -/
theorem Grows.eq_of_valued (grows : start.Grows added last)
    (valued : ∀ atom, start.value? atom ≠ none) : last = start := by
  induction grows with
  | refl => rfl
  | @assign added last literal _ free ih =>
    rw [ih] at free
    exact absurd free (valued literal.atom)

/-- What each literal that comes to hold keeps, all of them keep. -/
theorem Grows.induction {holds : Assignment → Prop}
    (assign : ∀ {assignment : Assignment} {literal : Literal},
      assignment.value? literal.atom = none →
      holds assignment → holds (assignment.assign literal))
    (grows : start.Grows added last) (begun : holds start) : holds last := by
  induction grows with
  | refl => exact begun
  | assign grows free ih => exact assign free ih

end Assignment

namespace ImportProgress

open Assignment (Grows)

variable {σ : Type}

/-- Whether an import has made as many literals hold as it counts units that were useful, and the
trail has grown by these. -/
def Goes (start : Assignment) (useful : Nat) (progress : ImportProgress (World σ Solver)) : Prop :=
  ∃ added, start.Grows added progress.world.host.assignment ∧
    progress.report.useful = added.length ∧
    progress.tally.unitsUseful = useful + added.length

variable {start : Assignment} {useful : Nat} {settings : TierSettings}

theorem goes_integrateUnit (progress : ImportProgress (World σ Solver)) (literal : Literal)
    (goes : Goes start useful progress) : Goes start useful (progress.integrateUnit literal) := by
  obtain ⟨added, grows, reported, counted⟩ := goes
  unfold integrateUnit
  split
  · rename_i free
    refine ⟨added ++ [literal], .assign grows free, ?_, ?_⟩
    · rw [List.length_append, List.length_singleton, ← reported]
      rfl
    · rw [List.length_append, List.length_singleton, ← Nat.add_assoc, ← counted]
      rfl
  · split
    · exact ⟨added, grows, reported, counted⟩
    · exact ⟨added, grows, reported, counted⟩

theorem goes_integrateClause (progress : ImportProgress (World σ Solver)) {clause : Clause}
    (plural : clause.length ≠ 1) (goes : Goes start useful progress) :
    Goes start useful (progress.integrateClause settings clause) := by
  have absorbs := absorbs_integrateClause settings progress plural
  have same : (progress.integrateClause settings clause).world.host.assignment =
      progress.world.host.assignment := by
    have known := absorbs.knowledge
    rw [Knowledge.absorb_of_length plural] at known
    exact congrArg Knowledge.assignment known
  obtain ⟨added, grows, reported, counted⟩ := goes
  refine ⟨added, same ▸ grows, ?_, ?_⟩
  · rw [integrateClause_eq progress clause rfl]
    exact reported
  · rw [integrateClause_eq progress clause rfl]
    exact counted

theorem goes_integrate (progress : ImportProgress (World σ Solver)) (clause : Clause)
    (goes : Goes start useful progress) :
    Goes start useful (progress.integrate settings clause).2 := by
  have told : Goes start useful (progress.act (recordDistance clause)) := by
    obtain ⟨added, grows, counts⟩ := goes
    have same : (recordDistance clause progress.world).host.assignment =
        progress.world.host.assignment :=
      congrArg Knowledge.assignment (Untouched.recordDistance clause progress.world).knowledge
    exact ⟨added, same ▸ grows, counts⟩
  match clause with
  | [] => exact told
  | [literal] => exact goes_integrateUnit _ literal told
  | first :: second :: rest => exact goes_integrateClause _ (Nat.succ_succ_ne_one _) told

end ImportProgress

namespace Peer

variable {σ : Type} [Store σ] (peer : Peer LearntKey)

omit [Store σ] in
theorem grows_integrateAll (records : List String) (world : World σ Solver) :
    ∃ added, world.host.assignment.Grows added
        (peer.integrateAll records world).2.2.host.assignment ∧
      (peer.integrateAll records world).2.1.tally.unitsUseful =
        peer.tally.unitsUseful + added.length ∧
      ∀ report, (peer.integrateAll records world).1 = .ok report →
      report.useful = added.length := by
  let before : ImportProgress (World σ Solver) :=
    ⟨{ peer.tally with recordsImported := peer.tally.recordsImported + records.length },
      { records := records.length }, world⟩
  have begun : ImportProgress.Goes world.host.assignment peer.tally.unitsUseful before :=
    ⟨[], .refl, rfl, rfl⟩
  have done : ImportProgress.Goes world.host.assignment peer.tally.unitsUseful
      (before.integrateRecords peer.config.tiers records).2 :=
    ImportProgress.integrateRecords_induction
      (motive := ImportProgress.Goes world.host.assignment peer.tally.unitsUseful)
      ImportProgress.goes_integrate (fun _ _ kept => kept) records begun
  obtain ⟨added, grows, reported, counted⟩ := done
  refine ⟨added, grows, counted, fun report returned => ?_⟩
  have outcome : (before.integrateRecords peer.config.tiers records).1.map
      (fun _ => (before.integrateRecords peer.config.tiers records).2.report) = .ok report :=
        returned
  cases ending : (before.integrateRecords peer.config.tiers records).1 with
  | error reason =>
    rw [ending] at outcome
    cases outcome
  | ok _ =>
    rw [ending] at outcome
    cases outcome
    exact reported

/-- **An import goes on with the trail, by one literal for each unit that it counts as useful.** -/
theorem grows_importInbox (world : World σ Solver) :
    ∃ added, world.host.assignment.Grows added (peer.importInbox world).2.2.host.assignment ∧
      (peer.importInbox world).2.1.tally.unitsUseful = peer.tally.unitsUseful + added.length ∧
      ∀ report, (peer.importInbox world).1 = .ok report → report.useful = added.length := by
  rcases peer.importInbox_untaken_or_taken world with
    ⟨reason, last, host, reached⟩ | ⟨records, popped, host, _, reached⟩
  · rw [reached]
    refine ⟨[], ?_, rfl, fun report returned => ?_⟩
    · rw [host]
      exact .refl
    · cases returned
  · rw [reached, ← host]
    exact peer.grows_integrateAll records popped

end Peer

namespace SolverEvent

variable {σ : Type} [Store σ]

/-- Whether an event only makes literals hold whose atoms have no value. -/
def Free (solver : Solver) : SolverEvent σ → Prop
  | ask (.assignFact literal) => solver.assignment.value? literal.atom = none
  | ask (.decide literal) => solver.assignment.value? literal.atom = none
  | ask (.assign literal) => solver.assignment.value? literal.atom = none
  | _ => True

/-- Whether an event is a decision. -/
def decides : SolverEvent σ → Bool
  | ask (.decide _) => true
  | _ => false

/-- What an event does to the values: going back, a decision, or some literals more that hold. -/
theorem assignment_perform (event : SolverEvent σ) (solver : Solver) (free : event.Free solver) :
    (event = .ask .backjump ∧ (event.perform solver).assignment = solver.assignment.backjump) ∨
    (∃ literal, event = .ask (.decide literal) ∧ solver.assignment.value? literal.atom = none ∧
      (event.perform solver).assignment = solver.assignment.decide literal) ∨
    (event ≠ .ask .backjump ∧ event.decides = false ∧
      ∃ added, solver.assignment.Grows added (event.perform solver).assignment) := by
  cases event with
  | importInbox peer store =>
    obtain ⟨added, grows, _⟩ := peer.grows_importInbox ⟨store, solver⟩
    exact .inr (.inr ⟨by rintro ⟨⟩, rfl, added, grows⟩)
  | ask action =>
    cases action with
    | backjump => exact .inl ⟨rfl, rfl⟩
    | decide literal => exact .inr (.inl ⟨literal, rfl, free, rfl⟩)
    | assign literal =>
      exact .inr (.inr ⟨by rintro ⟨⟩, rfl, [literal], .assign .refl free⟩)
    | assignFact literal =>
      refine .inr (.inr ⟨by rintro ⟨⟩, rfl, ?_⟩)
      rw [perform, SolverAction.perform_assignFact]
      split
      · exact ⟨[literal], .assign .refl free⟩
      · exact ⟨[], .refl⟩
    | _ => exact .inr (.inr ⟨by rintro ⟨⟩, rfl, [], .refl⟩)

end SolverEvent

namespace Solver

variable {σ : Type} [Store σ]

/-- Whether literals are only made to hold while their atoms have no value. -/
def FreeRun (solver : Solver) : List (SolverEvent σ) → Prop
  | [] => True
  | event :: events => event.Free solver ∧ (event.perform solver).FreeRun events

theorem freeRun_append {solver : Solver} {front back : List (SolverEvent σ)} :
    solver.FreeRun (front ++ back) ↔ solver.FreeRun front ∧ (solver.follow front).FreeRun back := by
  induction front generalizing solver with
  | nil => exact (and_iff_right trivial).symm
  | cons event front ih => exact (and_congr_right fun _ => ih).trans and_assoc.symm

variable {solver : Solver} {base : Assignment} {events : List (SolverEvent σ)}

/-- What going back, decisions and literals that come to hold keep, whatever happens keeps. -/
theorem follow_induction {motive : Assignment → Prop}
    (backjump : .ask .backjump ∈ events → ∀ {assignment : Assignment}, motive assignment →
      motive assignment.backjump)
    (decide : ∀ {assignment : Assignment} {literal : Literal},
      assignment.value? literal.atom = none →
      motive assignment → motive (assignment.decide literal))
    (assign : ∀ {assignment : Assignment} {literal : Literal},
      assignment.value? literal.atom = none →
      motive assignment → motive (assignment.assign literal))
    (free : solver.FreeRun events) (begun : motive solver.assignment) :
    motive (solver.follow events).assignment := by
  induction events generalizing solver with
  | nil => exact begun
  | cons event events ih =>
    obtain ⟨here, later⟩ := free
    refine ih (fun inside => backjump (List.mem_cons_of_mem event inside)) later ?_
    rcases event.assignment_perform solver here with
      ⟨rfl, back⟩ | ⟨literal, _, unset, decided⟩ | ⟨_, _, added, grows⟩
    · rw [back]
      exact backjump List.mem_cons_self begun
    · rw [decided]
      exact decide unset begun
    · exact grows.induction assign begun

theorem agrees_follow (agrees : solver.assignment.Agrees) (free : solver.FreeRun events) :
    (solver.follow events).assignment.Agrees :=
  follow_induction (fun _ => Assignment.Agrees.backjump) (fun unset kept => kept.decide unset)
    (fun unset kept => kept.assign unset) free agrees

/-- What is on the trail where no decision stands is never taken back. -/
theorem retains_follow (retains : base.Retains solver.assignment) (free : solver.FreeRun events) :
    base.Retains (solver.follow events).assignment :=
  follow_induction (fun _ => Assignment.Retains.backjump) (fun _ kept => kept.decide _)
    (fun _ kept => kept.assign _) free retains

/-- The first decision stands until there is some going back. -/
theorem above_follow (above : base.Above solver.assignment) (free : solver.FreeRun events)
    (onward : .ask .backjump ∉ events) : base.Above (solver.follow events).assignment :=
  follow_induction (fun inside => absurd inside onward) (fun _ kept => kept.decide _)
    (fun _ kept => kept.assign _) free above

/-- One decision more stands for each that is made, and as many as before whatever else happens but
going back. -/
theorem decisions_follow (free : solver.FreeRun events) (onward : .ask .backjump ∉ events) :
    (solver.follow events).assignment.decisions.size =
      solver.assignment.decisions.size + events.countP SolverEvent.decides := by
  induction events generalizing solver with
  | nil => rfl
  | cons event events ih =>
    obtain ⟨here, later⟩ := free
    obtain ⟨first, rest⟩ := not_or.mp (mt List.mem_cons.mpr onward)
    have after := ih later rest
    rcases event.assignment_perform solver here with
      ⟨back, _⟩ | ⟨literal, rfl, _, decided⟩ | ⟨_, undecided, added, grows⟩
    · exact absurd back.symm first
    · have raised : ((SolverEvent.ask (.decide literal) : SolverEvent σ).perform
          solver).assignment.decisions.size = solver.assignment.decisions.size + 1 := by
        rw [decided]
        exact Array.size_push _
      rw [List.countP_cons_of_pos rfl, Nat.add_comm _ 1, ← Nat.add_assoc, ← raised]
      exact after
    · have same :
          (event.perform solver).assignment.decisions.size = solver.assignment.decisions.size :=
        congrArg Array.size grows.decisions
      have idle : ¬ event.decides = true := by
        rw [undecided]
        exact Bool.false_ne_true
      rw [List.countP_cons_of_neg idle, ← same]
      exact after

/-- Each decision has its literal on the trail. -/
theorem decisions_le_trail_follow
    (fewer : solver.assignment.decisions.size ≤ solver.assignment.trail.size)
    (free : solver.FreeRun events) :
    (solver.follow events).assignment.decisions.size ≤
      (solver.follow events).assignment.trail.size := by
  apply follow_induction
    (motive := fun assignment => assignment.decisions.size ≤ assignment.trail.size) _ _ _ free fewer
  · intro _ assignment _
    rw [Assignment.decisions_backjump]
    exact Nat.zero_le _
  · intro assignment literal _ fewer
    change (assignment.decisions.push _).size ≤ (assignment.trail.push literal).size
    rw [Array.size_push, Array.size_push]
    exact Nat.succ_le_succ fewer
  · intro assignment literal _ fewer
    change assignment.decisions.size ≤ (assignment.trail.push literal).size
    rw [Array.size_push]
    exact Nat.le_succ_of_le fewer

/-- Where decisions stand, one of them was made where none stood, and there has been no going back
since. -/
theorem exists_first_decision (undecided : solver.assignment.decisions = #[])
    (free : solver.FreeRun events) (standing : (solver.follow events).assignment.decisions ≠ #[]) :
    ∃ front literal back, events = front ++ .ask (.decide literal) :: back ∧
      (solver.follow front).assignment.decisions = #[] ∧ .ask .backjump ∉ back := by
  induction events using List.reverseRecOn with
  | nil => exact absurd undecided standing
  | append_singleton events event ih =>
    obtain ⟨earlier, last, _⟩ := freeRun_append.mp free
    rw [follow_append] at standing
    change (event.perform (solver.follow events)).assignment.decisions ≠ #[] at standing
    by_cases lowest : (solver.follow events).assignment.decisions = #[]
    · rcases event.assignment_perform _ last with
        ⟨_, back⟩ | ⟨literal, rfl, _, _⟩ | ⟨_, _, added, grows⟩
      · rw [back] at standing
        exact absurd (Assignment.decisions_backjump _) standing
      · exact ⟨events, literal, [], rfl, lowest, List.not_mem_nil⟩
      · exact absurd (grows.decisions.trans lowest) standing
    · obtain ⟨front, literal, back, rfl, first, onward⟩ := ih earlier lowest
      refine ⟨front, literal, back ++ [event],
        by rw [List.append_assoc, List.cons_append], first, ?_⟩
      rw [List.mem_append, List.mem_singleton]
      rintro (before | rfl)
      · exact onward before
      · exact standing (Assignment.decisions_backjump _)

/-- **What comes to hold at level zero is never taken back**, if it is no decision. Either no
decision stands, or every atom has a value already and nothing comes to hold. -/
theorem retains_of_level (config : Config) {front back : List (SolverEvent σ)}
    {event : SolverEvent σ} (free : (starting config).FreeRun (front ++ event :: back))
    (onward : event ≠ .ask .backjump)
    (undecided : event.decides = false)
    (level : ((starting config).follow front).assignment.level = 0) :
    Assignment.Retains ((starting config).follow (front ++ [event])).assignment
        ((starting config).follow (front ++ event :: back)).assignment ∨
      ((starting config).follow (front ++ [event])).assignment =
        ((starting config).follow front).assignment := by
  obtain ⟨earlier, now, later⟩ := freeRun_append.mp free
  have next : (starting config).follow (front ++ [event]) =
      event.perform ((starting config).follow front) := follow_append ..
  have last : (starting config).follow (front ++ event :: back) =
      (event.perform ((starting config).follow front)).follow back := follow_append ..
  rw [next, last]
  rcases event.assignment_perform _ now with ⟨rfl, _⟩ | ⟨literal, rfl, _⟩ | ⟨_, _, added, grows⟩
  · exact absurd rfl onward
  · cases undecided
  by_cases bottom : ((starting config).follow front).assignment.decisions = #[]
  · exact .inl (retains_follow (.refl (grows.decisions.trans bottom)) later)
  · have agrees : ((starting config).follow front).assignment.Agrees :=
      agrees_follow Assignment.agrees_empty earlier
    have fewer : ((starting config).follow front).assignment.decisions.size ≤
        ((starting config).follow front).assignment.trail.size :=
      decisions_le_trail_follow (Nat.zero_le _) earlier
    exact .inr (grows.eq_of_valued (agrees.valued_of_level fewer level bottom))

/-- Whether the trail of a solver and its values are as all that has happened to it since it started
says. -/
structure KeepsTrail (start : Solver) (events : List (SolverEvent σ)) : Prop where
  /-- No atom is on the trail twice. -/
  once : ((start.follow events).assignment.trail.toList.map Literal.atom).Nodup
  /-- An atom has a value if it is on the trail with that value. -/
  values : ∀ atom value, (start.follow events).assignment.value? atom = some value ↔
    ⟨atom, value⟩ ∈ (start.follow events).assignment.trail
  /-- The level is the number of decisions since the last going back, in 32 bits. -/
  level : ∀ front back, events = front ++ back →
    (front = [] ∨ front.getLast? = some (.ask .backjump)) →
    .ask .backjump ∉ back → (start.follow events).assignment.level =
      back.countP SolverEvent.decides % Assignment.levelCount
  /-- Going back after decisions restores all that was there before the first of them. -/
  restored : ∀ front literal back, events = front ++ .ask (.decide literal) :: back →
    (start.follow front).assignment.decisions = #[] → .ask .backjump ∉ back →
    (start.follow events).backjump =
      { start.follow events with assignment := (start.follow front).assignment }
  /-- There is such a first decision wherever any stands. -/
  opened : (start.follow events).assignment.decisions ≠ #[] →
    ∃ front literal back, events = front ++ .ask (.decide literal) :: back ∧
      (start.follow front).assignment.decisions = #[] ∧ .ask .backjump ∉ back
  /-- Going back where no decision stands changes nothing. -/
  unopened : (start.follow events).assignment.decisions = #[] →
    (start.follow events).backjump = start.follow events
  /-- What holds where no decision stands keeps its place on the trail and its value. -/
  lasting : ∀ front back, events = front ++ back → (start.follow front).assignment.decisions = #[] →
    (start.follow front).assignment.trail.toList <+: (start.follow events).assignment.trail.toList ∧
      ∀ atom value, (start.follow front).assignment.value? atom = some value →
        (start.follow events).assignment.value? atom = some value
  /-- A fact that is assigned or imported at level zero keeps its place on the trail and its
  value. -/
  facts : ∀ front event back, events = front ++ event :: back → event ≠ .ask .backjump →
    event.decides = false → (start.follow front).assignment.level = 0 →
    ∀ index literal, (start.follow front).assignment.trail.size ≤ index →
      (start.follow (front ++ [event])).assignment.trail[index]? = some literal →
      (start.follow events).assignment.trail[index]? = some literal ∧
        (start.follow events).assignment.value? literal.atom = some literal.positive
  /-- An import goes on with the trail by one literal for each unit that it counts as useful. -/
  imported : ∀ (peer : Peer LearntKey) (store : σ),
    let outcome := peer.importInbox (⟨store, start.follow events⟩ : World σ Solver)
    ∃ added, outcome.2.2.host.assignment.trail.toList =
        (start.follow events).assignment.trail.toList ++ added ∧
      outcome.2.1.tally.unitsUseful = peer.tally.unitsUseful + added.length ∧
      ∀ report, outcome.1 = .ok report → report.useful = added.length

/-- **The values agree with the trail, and going back restores what there was.** This holds whatever
happens to a solver, as long as only literals are made to hold whose atoms have no value. -/
theorem keepsTrail_of_freeRun (config : Config) (events : List (SolverEvent σ))
    (free : (starting config).FreeRun events) : (starting config).KeepsTrail events := by
  have undecided : (starting config).assignment.decisions = #[] := rfl
  have agrees (front : List (SolverEvent σ)) (free : (starting config).FreeRun front) :
      ((starting config).follow front).assignment.Agrees :=
    agrees_follow Assignment.agrees_empty free
  have whole := agrees events free
  exact
    { once := whole.once
      values := fun atom value => by
        rw [whole.values]
        exact Array.mem_toList_iff
      level := fun front back split fresh onward => by
        subst split
        obtain ⟨earlier, later⟩ := freeRun_append.mp free
        have bottom : ((starting config).follow front).assignment.decisions = #[] := by
          rcases fresh with rfl | last
          · exact undecided
          · obtain ⟨before, rfl⟩ := List.getLast?_eq_some_iff.mp last
            rw [follow_append]
            exact Assignment.decisions_backjump _
        rw [Assignment.level, follow_append, decisions_follow later onward,
          bottom, Array.size_empty, Nat.zero_add]
      restored := fun front literal back split bottom onward => by
        subst split
        obtain ⟨earlier, here, later⟩ := freeRun_append.mp free
        have decided : Assignment.Above ((starting config).follow front).assignment
            (((starting config).follow front).decide literal).assignment :=
          Assignment.above_decide bottom literal
        have above := above_follow decided later onward
        have reached : (starting config).follow (front ++ .ask (.decide literal) :: back) =
            (((starting config).follow front).decide literal).follow back := follow_append ..
        rw [reached] at whole ⊢
        rw [backjump, above.backjump bottom (agrees front earlier) whole]
      opened := exists_first_decision undecided free
      unopened := fun bottom => by
        rw [backjump, Assignment.backjump_of_decisions (by rw [bottom]; rfl)]
      lasting := fun front back split bottom => by
        subst split
        obtain ⟨earlier, later⟩ := freeRun_append.mp free
        have retains := retains_follow (Assignment.Retains.refl bottom) later
        rw [← follow_append] at retains
        exact ⟨retains.trail, fun atom value held =>
          retains.value? (agrees front earlier) whole held⟩
      facts := fun front event back split kept undecided level index literal new here => by
        subst split
        rcases retains_of_level config free kept undecided level with retains | same
        · have held := retains.getElem?_trail here
          exact ⟨held,
            (whole.values ..).mpr (Array.mem_toList_iff.mpr (Array.mem_of_getElem? held))⟩
        · rw [same] at here
          exact absurd (Array.getElem?_eq_some_iff.mp here).1 (Nat.not_lt.mpr new)
      imported := fun peer store => by
        obtain ⟨added, grows, counts⟩ :=
          peer.grows_importInbox ⟨store, (starting config).follow events⟩
        exact ⟨added, grows.trail, counts⟩ }

/-- A fact, an import of another one, two levels of decisions with what follows, the way back, and
another decision on an atom that had a value in between. -/
def excursion (peer : Peer LearntKey) : List (SolverEvent ScriptedStore) :=
  [.ask (.assignFact ⟨0, true⟩),
    .importInbox peer { length := some 1, records := some ["-3 0"] },
    .ask (.decide ⟨1, true⟩), .ask (.assign ⟨4, false⟩), .ask (.decide ⟨3, true⟩),
    .ask .backjump, .ask (.decide ⟨4, true⟩)]

theorem keepsTrail_of_freeRun_excursion :
    (starting {}).FreeRun (excursion {}) ∧ (starting {}).KeepsTrail (excursion {}) ∧
      ((starting {}).follow (excursion {})).assignment.trail =
        #[⟨0, true⟩, ⟨2, false⟩, ⟨4, true⟩] := by
  have free : (starting {}).FreeRun (excursion {}) := by
    refine ⟨?_, trivial, ?_, ?_, ?_, trivial, ?_, trivial⟩
    all_goals
      show Assignment.value? _ _ = none
      decide +kernel
  exact ⟨free, keepsTrail_of_freeRun {} _ free, by decide +kernel⟩

end Solver

end ClauseSharing
