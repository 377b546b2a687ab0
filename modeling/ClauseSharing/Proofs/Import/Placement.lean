import ClauseSharing.Proofs.Import.Stop
import ClauseSharing.Proofs.Solver.Contents
import ClauseSharing.Solver
import Mathlib.Data.List.ReduceOption

/-! # What an import does to the tiers of a solver

Of the tiers of a solver and its counts of copies, a unit changes nothing. A longer clause that gets
a key of its own is seen behind all others, in the tier that follows from its distance and from what
is announced of its copies (`ImportProgress.ranked_effect`), and nothing else that an import does
bears on either. -/

namespace ClauseSharing

namespace Solver

/-- The learnt clauses with their tiers, and the counts of copies. -/
def standing (solver : Solver) : List (Option (Clause × Tier)) × CopyCounts :=
  (solver.learnt.ranked, solver.copies)

/-- The clauses, with their tiers, that are behind those that were there before. -/
def placedSince (before after : Solver) : List (Clause × Tier) :=
  (after.learnt.ranked.drop before.learnt.ranked.length).reduceOption

theorem map_fst_placedSince {before after : Solver} {new : List Clause}
    (contents : after.learnt.contents = before.learnt.contents ++ new.map some) :
    (before.placedSince after).map Prod.fst = new := by
  have slots : before.learnt.ranked.length = before.learnt.contents.length := by
    rw [LearntBase.contents_eq_ranked, List.length_map]
  rw [placedSince, ← List.reduceOption_map, List.map_drop,
    ← LearntBase.contents_eq_ranked, contents, slots, List.drop_left]
  exact List.filterMap_map.trans List.filterMap_some

end Solver

namespace ImportProgress

variable {σ : Type} {settings : TierSettings}

/-- Whether copies of a clause are counted. -/
abbrev Counts (settings : TierSettings) (clause : Clause) : Prop :=
  clause.distance ≤ settings.copyCut.value.toNat

/-- What is announced of the copies of a clause, and the counts with this one, where its copies are
counted. -/
def sighted (settings : TierSettings) (clause : Clause) (copies : CopyCounts) : Nat × CopyCounts :=
  if Counts settings clause then copies.note (.ofClause clause) else (0, copies)

theorem noteCopy_eq (settings : TierSettings) (clause : Clause) (world : World σ Solver) :
    noteCopy settings clause world =
      ((sighted settings clause world.host.copies).1,
        { world with host :=
            { world.host with copies := (sighted settings clause world.host.copies).2 } }) := by
  unfold noteCopy sighted
  split <;> rfl

theorem standing_recordDistance (clause : Clause) (world : World σ Solver) :
    (recordDistance clause world).host.standing = world.host.standing := by
  unfold recordDistance
  split <;> rfl

theorem standing_enterTier (key : LearntKey) (tier : Tier) (world : World σ Solver) :
    (enterTier key tier world).host.standing = world.host.standing := by
  cases tier with
  | core => rfl
  | second => exact Prod.ext (LearntBase.ranked_setTouched _ key _) rfl
  | active => exact Prod.ext (LearntBase.ranked_bumpClause _ key) rfl

theorem standing_settle (key : LearntKey) (world : World σ Solver) :
    (settle key world).host.standing = world.host.standing := by
  have decayed (world : World σ Solver) :
      (Host.decayClauses world).host.standing = world.host.standing :=
    Prod.ext (LearntBase.ranked_decayClauses _) rfl
  have attached : (Host.attach key world).host.standing = world.host.standing :=
    Prod.ext (LearntBase.ranked_attach _ key) rfl
  unfold settle
  dsimp only
  rw [decayed]
  split
  · exact attached
  · exact attached

theorem announced_eq (settings : TierSettings) (clause : Clause) (world : World σ Solver) :
    announced settings clause world = (sighted settings clause world.host.copies).1 := by
  have told : (recordDistance clause world).host.copies = world.host.copies :=
    congrArg Prod.snd (standing_recordDistance clause world)
  rw [announced, noteCopy_eq, ← told]
  rfl

/-- A unit bears on no tier. -/
theorem standing_effect_singleton (settings : TierSettings) (literal : Literal)
    (world : World σ Solver) :
    (effect settings [literal] world).host.standing = world.host.standing := by
  change (integrateUnit ⟨{}, {}, recordDistance [literal] world⟩ literal).world.host.standing = _
  rw [← standing_recordDistance [literal] world]
  unfold integrateUnit
  split
  · rfl
  · split <;> rfl

theorem learnt_recordDistance (clause : Clause) (world : World σ Solver) :
    (recordDistance clause world).host.learnt = world.host.learnt := by
  unfold recordDistance
  split <;> rfl

/-- A clause of two literals or more is stored and put in its tier. -/
theorem standing_effect {clause : Clause} (plural : 2 ≤ clause.length) (world : World σ Solver) :
    let stored := world.host.learnt.allocate clause clause.distance
    let noted := sighted settings clause world.host.copies
    (effect settings clause world).host.standing =
      ((stored.2.markTier stored.1 (.classify settings clause.distance noted.1)).ranked,
        noted.2) := by
  have copies : (recordDistance clause world).host.copies = world.host.copies :=
    congrArg Prod.snd (standing_recordDistance clause world)
  rw [effect_of_plural settings plural, standing_settle, standing_enterTier, noteCopy_eq,
    ← learnt_recordDistance clause world, ← copies]
  rfl

theorem copies_effect {clause : Clause} (plural : 2 ≤ clause.length) (world : World σ Solver) :
    (effect settings clause world).host.copies = (sighted settings clause world.host.copies).2 :=
  congrArg Prod.snd (standing_effect plural world)

/-- As long as keys are left, a clause of two literals or more is seen behind all others, in its
tier. -/
theorem ranked_effect {clause : Clause} (plural : 2 ≤ clause.length) (world : World σ Solver)
    (left : world.host.learnt.clauses.size < LearntBase.keyCount) :
    (effect settings clause world).host.learnt.ranked = world.host.learnt.ranked ++
      [some (clause, .classify settings clause.distance
        (sighted settings clause world.host.copies).1)] :=
  (congrArg Prod.fst (standing_effect plural world)).trans
    (LearntBase.ranked_markTier_allocate left ..)

/-- How an import ends bears neither on learnt clauses nor on counts of copies. -/
theorem Ends.stored {world last : World σ Solver} {records : List String} {ending : Ending}
    (ends : Ends world records ending last) :
    last.host.learnt = world.host.learnt ∧ last.host.copies = world.host.copies := by
  have told (clause : Clause) : (recordDistance clause world).host.copies = world.host.copies :=
    congrArg Prod.snd (standing_recordDistance clause world)
  cases ends with
  | complete | unreadable _ => exact ⟨rfl, rfl⟩
  | empty _ => exact ⟨learnt_recordDistance [] world, told []⟩
  | @opposed record later literal _ _ =>
    exact ⟨learnt_recordDistance [literal] world, told [literal]⟩

end ImportProgress

end ClauseSharing
