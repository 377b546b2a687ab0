import ClauseSharing.Proofs.Import.Intake
import ClauseSharing.Proofs.Import.Placement

/-! # What clauses come to in total

What a solver makes of clauses that are taken in one after the other follows from the clauses and
from the copies that were counted before (`ImportProgress.Totals`): which of them are learnt, and in
which tiers as long as keys are left, the counts of copies, the distances that are recorded, how
many atoms are given a value, and what is added to the counts of the peer. A unit gives such totals
(`ImportProgress.totals_effect_unit`), any longer clause does
(`ImportProgress.totals_effect_plural`), and those of two runs add up
(`ImportProgress.Totals.trans`), so a whole run gives them (`ImportProgress.totals_worldAfter`). -/

namespace ClauseSharing

/-- How many clauses were put in a tier. -/
def Tally.inTier (tally : Tally) : Tier → Nat
  | .core => tally.importedCore
  | .second => tally.importedSecond
  | .active => tally.importedActive

theorem Tally.inTier_add (one other : Tally) (tier : Tier) :
    (one + other).inTier tier = one.inTier tier + other.inTier tier := by
  cases tier <;> rfl

/-- How many clauses are reported to have been put in a tier. -/
def ImportReport.inTier (report : ImportReport) : Tier → Nat
  | .core => report.core
  | .second => report.second
  | .active => report.active

theorem ImportReport.inTier_plus (report : ImportReport) (gain : Tally) (tier : Tier) :
    (report.plus gain).inTier tier = report.inTier tier + gain.inTier tier := by
  cases tier <;> rfl

theorem Assignment.size_values_assign (assignment : Assignment) {literal : Literal}
    (free : assignment.value? literal.atom = none) :
    (assignment.assign literal).values.size = assignment.values.size + 1 := by
  have absent : ¬assignment.values.contains literal.atom = true := by
    rw [Std.ExtTreeMap.contains_eq_isSome_getElem?]
    exact Option.not_isSome_iff_eq_none.mpr free
  rw [assign, Std.ExtTreeMap.size_insert, if_neg absent]

namespace Branching

/-- Notes distances one after the other. -/
def recordAll (branching : Branching) (distances : List Nat) : Branching :=
  distances.foldl record branching

/-- What decisions are based on, but for the weight of bumps. -/
def unweighted (branching : Branching) : Branching := { branching with atomBump := 0.0 }

theorem recordAll_append (branching : Branching) (front back : List Nat) :
    branching.recordAll (front ++ back) = (branching.recordAll front).recordAll back :=
  List.foldl_append

theorem adaptive_recordAll (branching : Branching) (distances : List Nat) :
    (branching.recordAll distances).adaptive = branching.adaptive := by
  induction distances generalizing branching with
  | nil => rfl
  | cons distance distances ih => exact ih (branching.record distance)

theorem recorded_recordAll (branching : Branching) (distances : List Nat) :
    (branching.recordAll distances).recorded = branching.recorded + distances.length := by
  induction distances generalizing branching with
  | nil => rfl
  | cons distance distances ih =>
    refine (ih (branching.record distance)).trans ?_
    rw [List.length_cons, Nat.add_comm distances.length, ← Nat.add_assoc]
    rfl

theorem distanceSum_recordAll (branching : Branching) (distances : List Nat) :
    (branching.recordAll distances).distanceSum =
      distances.foldl
      (fun sum distance => sum + min distance distanceCap) branching.distanceSum := by
  induction distances generalizing branching with
  | nil => rfl
  | cons distance distances ih => exact ih (branching.record distance)

end Branching

namespace ImportProgress

variable {settings : TierSettings}

/-- Each clause of two literals or more with what is announced of its copies, where clauses are
taken in one after the other. -/
def announcements (settings : TierSettings) : CopyCounts → List Clause → List (Clause × Nat)
  | _, [] => []
  | copies, clause :: clauses =>
    if 2 ≤ clause.length then
      let noted := sighted settings clause copies
      (clause, noted.1) :: announcements settings noted.2 clauses
    else announcements settings copies clauses

/-- The counts of copies when clauses have been taken in one after the other. -/
def copiesAfter (settings : TierSettings) : CopyCounts → List Clause → CopyCounts
  | copies, [] => copies
  | copies, clause :: clauses =>
    if 2 ≤ clause.length then copiesAfter settings (sighted settings clause copies).2 clauses
    else copiesAfter settings copies clauses

/-- The tier of a clause of which so many copies are announced. -/
def tierOfCopies (settings : TierSettings) (announced : Clause × Nat) : Tier :=
  .classify settings announced.1.distance announced.2

/-- Each clause of two literals or more with the tier that it is put in. -/
def placements (settings : TierSettings) (copies : CopyCounts) (clauses : List Clause) :
    List (Clause × Tier) :=
  (announcements settings copies clauses).map fun announced =>
    (announced.1, tierOfCopies settings announced)

theorem announcements_append (copies : CopyCounts) (front back : List Clause) :
    announcements settings copies (front ++ back) =
      announcements settings copies front ++
        announcements settings (copiesAfter settings copies front) back := by
  induction front generalizing copies with
  | nil => rfl
  | cons clause front ih =>
    rw [List.cons_append, announcements, announcements, copiesAfter]
    split
    · exact congrArg _ (ih _)
    · exact ih _

theorem copiesAfter_append (copies : CopyCounts) (front back : List Clause) :
    copiesAfter settings copies (front ++ back) =
      copiesAfter settings (copiesAfter settings copies front) back := by
  induction front generalizing copies with
  | nil => rfl
  | cons clause front ih =>
    rw [List.cons_append, copiesAfter, copiesAfter]
    split <;> exact ih _

theorem placements_append (copies : CopyCounts) (front back : List Clause) :
    placements settings copies (front ++ back) =
      placements settings copies front ++ placements settings
      (copiesAfter settings copies front) back := by
  rw [placements, announcements_append, List.map_append]
  rfl

theorem map_fst_announcements (copies : CopyCounts) (clauses : List Clause) :
    (announcements settings copies clauses).map Prod.fst =
      clauses.filter fun clause => 2 ≤ clause.length := by
  induction clauses generalizing copies with
  | nil => rfl
  | cons clause clauses ih =>
    rw [announcements, List.filter_cons]
    simp only [decide_eq_true_eq]
    split
    · exact congrArg (clause :: ·) (ih _)
    · exact ih copies

theorem map_fst_placements (copies : CopyCounts) (clauses : List Clause) :
    (placements settings copies clauses).map Prod.fst = clauses.filter fun clause =>
      2 ≤ clause.length := by
  rw [placements, List.map_map, ← map_fst_announcements copies]
  rfl

/-- What clauses come to that a solver has taken in one after the other, given what they add to the
counts. -/
structure Totals (settings : TierSettings) (before after : Solver)
    (clauses : List Clause) (gain : Tally) :
    Prop where
  contents : after.learnt.contents =
    before.learnt.contents ++ (clauses.filter fun clause => 2 ≤ clause.length).map some
  ranked : after.learnt.clauses.size ≤ LearntBase.keyCount → after.learnt.ranked =
    before.learnt.ranked ++ (placements settings before.copies clauses).map some
  copies : after.copies = copiesAfter settings before.copies clauses
  branching : after.branching.unweighted = before.branching.unweighted.recordAll
    (if before.branching.adaptive then clauses.map Clause.distance else [])
  values : after.assignment.values.size = before.assignment.values.size + gain.unitsUseful
  units : gain.unitsUseful + gain.unitsRedundant = clauses.countP (·.length = 1)
  tiers : ∀ tier, gain.inTier tier =
    (announcements settings before.copies clauses).countP (tierOfCopies settings · = tier)
  lifted : gain.copiesLifted =
    (announcements settings before.copies clauses).countP (·.2 = settings.minCopies.value.toNat)

namespace Totals

variable {first second third : Solver} {front back : List Clause} {one other : Tally}

theorem refl (solver : Solver) : Totals settings solver solver [] {} where
  contents := (List.append_nil _).symm
  ranked _ := (List.append_nil _).symm
  copies := rfl
  branching := by
    rw [List.map_nil, ite_self]
    rfl
  values := rfl
  units := rfl
  tiers tier := by cases tier <;> rfl
  lifted := rfl

theorem adaptive (totals : Totals settings first second front one) :
    second.branching.adaptive = first.branching.adaptive :=
  (congrArg Branching.adaptive totals.branching).trans (Branching.adaptive_recordAll ..)

/-- As many clauses are stored as there are of two literals or more. -/
theorem size (totals : Totals settings first second front one) :
    second.learnt.clauses.size =
      first.learnt.clauses.size + front.countP fun clause => 2 ≤ clause.length := by
  have lengths := congrArg List.length totals.contents
  rw [List.length_append, List.length_map, ← List.countP_eq_length_filter] at lengths
  rwa [← LearntBase.length_contents, ← LearntBase.length_contents]

theorem trans (totals : Totals settings first second front one)
    (behind : Totals settings second third back other) :
    Totals settings first third (front ++ back) (one + other) where
  contents := by
    rw [behind.contents, totals.contents, List.filter_append, List.map_append, List.append_assoc]
  ranked left := by
    have before : second.learnt.clauses.size ≤ LearntBase.keyCount := by
      rw [behind.size] at left
      omega
    rw [behind.ranked left, totals.ranked before, totals.copies, placements_append, List.map_append,
      List.append_assoc]
  copies := by rw [behind.copies, totals.copies, copiesAfter_append]
  branching := by
    rw [behind.branching, totals.branching, totals.adaptive,
      ← Branching.recordAll_append, List.map_append]
    split <;> rfl
  values := by
    rw [behind.values, totals.values, Nat.add_assoc]
    rfl
  units := by
    rw [List.countP_append, ← totals.units, ← behind.units]
    exact Nat.add_add_add_comm ..
  tiers tier := by
    rw [Tally.inTier_add, totals.tiers, behind.tiers, totals.copies,
      announcements_append, List.countP_append]
  lifted := by
    rw [announcements_append, List.countP_append, ← totals.lifted, ← totals.copies, ← behind.lifted]
    rfl

/-- Each clause of two literals or more is counted in one tier. -/
theorem learnt (totals : Totals settings first second front one) :
    one.importedCore + one.importedSecond + one.importedActive =
      (announcements settings first.copies front).length := by
  have core : one.importedCore = _ := totals.tiers .core
  have second : one.importedSecond = _ := totals.tiers .second
  have active : one.importedActive = _ := totals.tiers .active
  rw [core, second, active]
  generalize announcements settings first.copies front = announced
  induction announced with
  | nil => rfl
  | cons first rest ih =>
    rw [List.countP_cons, List.countP_cons, List.countP_cons, List.length_cons, ← ih]
    cases tierOfCopies settings first <;> simp only [decide_true, reduceCtorEq,
      decide_false, if_true, Bool.false_eq_true, if_false] <;> omega

/-- Each clause that is not empty is counted once. -/
theorem length (totals : Totals settings first second front one)
    (nonempty : ∀ clause ∈ front, clause ≠ []) :
    one.unitsUseful + one.unitsRedundant + one.importedCore + one.importedSecond +
      one.importedActive = front.length := by
  have units := totals.units
  have learnt := totals.learnt
  rw [← List.length_map Prod.fst, map_fst_announcements, ← List.countP_eq_length_filter] at learnt
  have others : front.countP (fun clause => ¬decide (clause.length = 1) = true) =
      front.countP fun clause => 2 ≤ clause.length := by
    apply List.countP_congr
    intro clause inside
    have positive := List.length_pos_iff.mpr (nonempty clause inside)
    simp only [decide_eq_true_eq]
    omega
  have kinds := List.length_eq_countP_add_countP (l := front) fun clause => clause.length = 1
  rw [others] at kinds
  omega

end Totals

section

variable {σ : Type}

theorem branching_recordDistance (clause : Clause) (world : World σ Solver) :
    (recordDistance clause world).host.branching = world.host.branching.recordAll
      (if world.host.branching.adaptive then [clause.distance] else []) := by
  have told : Host.isAdaptive world = world.host.branching.adaptive := rfl
  rw [recordDistance, told]
  split <;> rfl

theorem branching_enterTier (key : LearntKey) (tier : Tier) (world : World σ Solver) :
    (enterTier key tier world).host.branching = world.host.branching := by
  cases tier <;> rfl

theorem branching_settle (key : LearntKey) (world : World σ Solver) :
    (settle key world).host.branching.unweighted = world.host.branching.unweighted := by
  unfold settle
  dsimp only
  split <;> rfl

theorem branching_integrateUnit (progress : ImportProgress (World σ Solver)) (literal : Literal) :
    (progress.integrateUnit literal).world.host.branching = progress.world.host.branching := by
  unfold integrateUnit
  split
  · rfl
  · split <;> rfl

/-- Giving a clause to a solver bears on what decisions are based on by its distance, and by the
weight of bumps. -/
theorem branching_effect (settings : TierSettings) (clause : Clause) (world : World σ Solver) :
    (effect settings clause world).host.branching.unweighted =
      world.host.branching.unweighted.recordAll
        (if world.host.branching.adaptive then [clause.distance] else []) := by
  have told : (recordDistance clause world).host.branching.unweighted =
      world.host.branching.unweighted.recordAll
        (if world.host.branching.adaptive then [clause.distance] else []) := by
    rw [branching_recordDistance]
    split <;> rfl
  rw [← told]
  match clause with
  | [] => rfl
  | [literal] => exact congrArg Branching.unweighted (branching_integrateUnit ⟨{}, {}, _⟩ literal)
  | first :: second :: rest =>
    rw [effect_of_plural settings (Nat.le_add_left ..), branching_settle,
      branching_enterTier, noteCopy_eq]
    rfl

/-- What a solver knows when it has taken in a clause. -/
theorem knowledge_effect (settings : TierSettings) {clause : Clause} (nonempty : clause ≠ [])
    (world : World σ Solver) :
    (effect settings clause world).host.knowledge = world.host.knowledge.absorb clause := by
  obtain ⟨next, integrated, absorbs⟩ := absorbs_integrate settings ⟨{}, {}, world⟩ nonempty
  rw [effect, integrated]
  exact absorbs.knowledge

/-- One more atom has a value after a unit whose atom had none, and after no other clause. -/
theorem values_effect (settings : TierSettings) {clause : Clause} (nonempty : clause ≠ [])
    (world : World σ Solver) :
    (effect settings clause world).host.assignment.values.size =
      world.host.assignment.values.size + (gain settings world clause).unitsUseful := by
  have known := congrArg (·.assignment.values.size) (knowledge_effect settings nonempty world)
  refine known.trans ?_
  match clause, nonempty with
  | [literal], _ =>
    have looked : Host.value? literal.atom (recordDistance [literal] world) =
        world.host.knowledge.value? literal.atom :=
      congrArg (·.value? literal.atom) (Untouched.recordDistance [literal] world).knowledge
    rw [gain, looked]
    simp only [Knowledge.absorb]
    cases found : world.host.knowledge.value? literal.atom with
    | none => exact world.host.assignment.size_values_assign found
    | some value =>
      dsimp only
      split <;> rfl
  | first :: second :: rest, _ =>
    rw [gain_of_plural settings world (Nat.le_add_left ..)]
    rfl

theorem announcements_singleton (settings : TierSettings) (copies : CopyCounts) {clause : Clause}
    (plural : 2 ≤ clause.length) :
    announcements settings copies [clause] = [(clause, (sighted settings clause copies).1)] := by
  rw [announcements, if_pos plural]
  rfl

/-- What a unit comes to. -/
theorem totals_effect_unit (settings : TierSettings) (literal : Literal) (world : World σ Solver) :
    Totals settings world.host (effect settings [literal] world).host [[literal]]
      (gain settings world [literal]) := by
  have stands := standing_effect_singleton settings literal world
  have counted :
      (gain settings world [literal]).unitsUseful + (gain settings world [literal]).unitsRedundant =
        1 ∧ ∀ tier, (gain settings world [literal]).inTier tier = 0 := by
    rw [gain]
    cases Host.value? literal.atom (recordDistance [literal] world) with
    | none => exact ⟨rfl, fun tier => by cases tier <;> rfl⟩
    | some value => exact ⟨rfl, fun tier => by cases tier <;> rfl⟩
  have ranked : (effect settings [literal] world).host.learnt.ranked = world.host.learnt.ranked :=
    congrArg Prod.fst stands
  exact {
    contents := by
      rw [LearntBase.contents_eq_ranked, ranked, ← LearntBase.contents_eq_ranked]
      exact (List.append_nil _).symm
    ranked := fun _ => ranked.trans (List.append_nil _).symm
    copies := congrArg Prod.snd stands
    branching := branching_effect settings [literal] world
    values := values_effect settings (List.cons_ne_nil _ _) world
    units := counted.1
    tiers := counted.2
    lifted := copiesLifted_gain_singleton settings world literal }

/-- What a clause of two literals or more comes to. -/
theorem totals_effect_plural (settings : TierSettings) {clause : Clause}
    (plural : 2 ≤ clause.length) (world : World σ Solver) :
    Totals settings world.host (effect settings clause world).host [clause]
      (gain settings world clause) := by
  have nonempty : clause ≠ [] := List.length_pos_iff.mp (by omega)
  have announces := announcements_singleton settings world.host.copies plural
  have gained := gain_of_plural settings world plural
  rw [announced_eq] at gained
  have known := knowledge_effect settings nonempty world
  rw [Knowledge.absorb_of_length (by omega)] at known
  have contents : (effect settings clause world).host.learnt.contents =
      world.host.learnt.contents ++ [some clause] := congrArg Knowledge.clauses known
  refine ⟨?_, fun left => ?_, ?_, branching_effect settings clause world,
    values_effect settings nonempty world, ?_, ?_, ?_⟩
  · rw [contents, List.filter_cons, if_pos (decide_eq_true plural)]
    rfl
  · rw [placements, announces]
    refine ranked_effect plural world ?_
    rw [← LearntBase.length_contents, contents, List.length_append, List.length_singleton,
      LearntBase.length_contents] at left
    exact left
  · rw [copiesAfter, if_pos plural]
    exact copies_effect plural world
  · have several : ¬clause.length = 1 := by omega
    rw [gained, List.countP_singleton, if_neg (by rw [decide_eq_true_eq]; exact several)]
    rfl
  · intro tier
    rw [announces, gained, List.countP_singleton]
    simp only [decide_eq_true_eq]
    cases tier <;> rfl
  · rw [announces, gained, List.countP_singleton]
    simp only [decide_eq_true_eq]
    rfl

/-- **Clauses that are taken in add up.** -/
theorem totals_worldAfter (settings : TierSettings) {clauses : List Clause}
    (nonempty : ∀ clause ∈ clauses, clause ≠ []) (world : World σ Solver) :
    Totals settings world.host (worldAfter settings clauses world).host clauses
      (gains settings world clauses) := by
  induction clauses generalizing world with
  | nil => exact .refl world.host
  | cons clause clauses ih =>
    obtain ⟨first, others⟩ := List.forall_mem_cons.mp nonempty
    have one : Totals settings world.host (effect settings clause world).host [clause]
        (gain settings world clause) := by
      by_cases plural : 2 ≤ clause.length
      · exact totals_effect_plural settings plural world
      · have positive := List.length_pos_iff.mpr first
        obtain ⟨literal, rfl⟩ := List.length_eq_one_iff.mp (by omega : clause.length = 1)
        exact totals_effect_unit settings literal world
    exact one.trans (ih others _)

end

end ImportProgress

end ClauseSharing
