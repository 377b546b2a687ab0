import ClauseSharing.Proofs.Import.Totals
import ClauseSharing.Proofs.Solver.Watching

/-! # Where an import puts clauses

Each clause of two literals or more that an import takes in goes to the end of the list of its tier,
in the order in which they come (`LearntBase.Shelves`). What is new stands in the list of the tier
that it says it is in, and in no other one (`LearntBase.Shelves.found`), and this is how it is seen
from outside (`Solver.shelvedSince_of_shelves`). All of this is so as long as each of them gets a
key of its own. -/

namespace ClauseSharing

namespace LearntBase

/-- The keys from a place on that are put in a tier, where one clause after the other is put in
these. -/
def keysIn (tier : Tier) (start : Nat) (tiers : List Tier) : List LearntKey :=
  (tiers.zipIdx start).filterMap fun placed => if placed.1 = tier then some ⟨placed.2⟩ else none

section

variable {tier : Tier} {start : Nat} {tiers : List Tier} {key : LearntKey}

theorem keysIn_append (front back : List Tier) :
    keysIn tier start (front ++ back) =
      keysIn tier start front ++ keysIn tier (start + front.length) back := by
  rw [keysIn, List.zipIdx_append, List.filterMap_append]
  rfl

theorem keysIn_cons (first : Tier) (rest : List Tier) :
    keysIn tier start (first :: rest) =
      (if first = tier then [⟨start⟩] else []) ++ keysIn tier (start + 1) rest := by
  rw [keysIn, List.zipIdx_cons, List.filterMap_cons]
  by_cases here : first = tier
  · simp only [if_pos here]
    rfl
  · simp only [if_neg here]
    rfl

theorem mem_keysIn :
    key ∈ keysIn tier start tiers ↔ start ≤ key.index ∧ tiers[key.index - start]? = some tier := by
  rw [keysIn, List.mem_filterMap]
  constructor
  · rintro ⟨⟨here, index⟩, inside, placed⟩
    obtain ⟨behind, found⟩ := List.mk_mem_zipIdx_iff_le_and_getElem?_sub.mp inside
    obtain ⟨same, made⟩ := Option.ite_none_right_eq_some.mp placed
    cases made
    exact ⟨behind, same ▸ found⟩
  · intro found
    exact ⟨(tier, key.index), List.mk_mem_zipIdx_iff_le_and_getElem?_sub.mpr found, if_pos rfl⟩

end

/-- Whether the tiers have no keys but those that were given out. -/
def Fresh (base : LearntBase) : Prop :=
  ∀ tier, ∀ key ∈ base.tierKeys tier, key.index < base.clauses.size

/-- Whether a base has grown by clauses of which one after the other has been put in these tiers. -/
structure Shelves (base next : LearntBase) (tiers : List Tier) : Prop where
  size : next.clauses.size = base.clauses.size + tiers.length
  keys : ∀ tier, next.tierKeys tier = base.tierKeys tier ++ keysIn tier base.clauses.size tiers

namespace Shelves

variable {first second third : LearntBase} {front back : List Tier}

theorem refl (base : LearntBase) : Shelves base base [] := ⟨rfl, fun _ => (List.append_nil _).symm⟩

theorem trans (one : Shelves first second front) (other : Shelves second third back) :
    Shelves first third (front ++ back) where
  size := by rw [other.size, one.size, List.length_append, Nat.add_assoc]
  keys tier := by rw [other.keys, one.keys, keysIn_append, one.size, List.append_assoc]

theorem fresh (shelves : Shelves first second front) (fresh : first.Fresh) : second.Fresh := by
  intro tier key inside
  rw [shelves.keys, List.mem_append] at inside
  rw [shelves.size]
  rcases inside with old | new
  · exact Nat.lt_of_lt_of_le (fresh tier key old) (Nat.le_add_right ..)
  · have placed := (List.getElem?_eq_some_iff.mp (mem_keysIn.mp new).2).1
    omega

/-- Of what is new, each key is in the tier that its clause was put in, and in no other. -/
theorem mem_iff (shelves : Shelves first second front) (fresh : first.Fresh) {key : LearntKey}
    (new : first.clauses.size ≤ key.index) (tier : Tier) :
    key ∈ second.tierKeys tier ↔ front[key.index - first.clauses.size]? = some tier := by
  rw [shelves.keys, List.mem_append, mem_keysIn]
  constructor
  · rintro (old | placed)
    · exact absurd (fresh tier key old) (Nat.not_lt.mpr new)
    · exact placed.2
  · exact fun placed => .inr ⟨new, placed⟩

/-- What is new is found under its key as it was put there, and its key is in the list of its tier
alone. -/
theorem found {placed : List (Clause × Tier)} (shelves : Shelves first second (placed.map Prod.snd))
    (ranked : second.ranked = first.ranked ++ placed.map some)
    (fresh : first.Fresh) {key : LearntKey}
    (new : first.clauses.size ≤ key.index)
    (inside : key.index - first.clauses.size < placed.length) :
    ∃ found, second.find? key = some found ∧
      placed[key.index - first.clauses.size]? = some (found.literals, found.tier) ∧
      ∀ tier, key ∈ second.tierKeys tier ↔ tier = found.tier := by
  have slots : first.ranked.length = first.clauses.size := length_seen ..
  -- What is seen at its place behind all that was there before is what was put there.
  have seen : (second.find? key).map (fun learnt => (learnt.literals, learnt.tier)) =
      some placed[key.index - first.clauses.size] := by
    rw [← seen_getElem?]
    change second.ranked[key.index]?.join = _
    rw [ranked, List.getElem?_append_right (by omega), slots, List.getElem?_map,
      List.getElem?_eq_getElem inside]
    rfl
  obtain ⟨found, present, same⟩ := Option.map_eq_some_iff.mp seen
  have here : placed[key.index - first.clauses.size]? = some (found.literals, found.tier) := by
    rw [List.getElem?_eq_getElem inside, same]
  refine ⟨found, present, here, fun tier => ?_⟩
  rw [shelves.mem_iff fresh new, List.getElem?_map, here, Option.map_some, Option.some.injEq]
  exact eq_comm

end Shelves

/-- A clause that gets a key of its own and is put in a tier is at the end of the tier and in no
other one. -/
theorem shelves_allocate {base : LearntBase} (fresh : base.Fresh)
    (left : base.clauses.size < keyCount) (literals : Clause) (distance : Nat) (tier : Tier) :
    Shelves base ((base.allocate literals distance).2.markTier base.nextKey tier) [tier] where
  size := by rw [size_markTier, size_allocate, List.length_singleton]
  keys other := by
    have present := find?_allocate_self left literals distance
    have absent (here : Tier) :
        base.nextKey ∉ (base.allocate literals distance).2.tierKeys here := by
      rw [nextKey_of_lt left]
      exact fun inside => Nat.lt_irrefl _ (fresh here _ inside)
    rw [tierKeys_markTier fun here inside => absurd inside (absent here), present]
    refine congr (congrArg _ ?_) ?_
    · refine List.filter_eq_self.mpr fun held inside => ?_
      exact decide_eq_true (ne_of_mem_of_not_mem inside (absent other))
    · rw [nextKey_of_lt left, keysIn_cons]
      simp only [Option.isSome_some, and_true, eq_comm (a := other)]
      exact (List.append_nil _).symm

end LearntBase

/-- How a learnt clause stands. -/
structure Placement where
  literals : Clause
  /-- The tier that the clause says it is in. -/
  tier : Tier
  /-- The tiers whose lists have the key of the clause. -/
  homes : List Tier
deriving DecidableEq

/-- A clause whose key is in the list of its tier and in no other one. -/
def Placement.sole (literals : Clause) (tier : Tier) : Placement :=
  { literals, tier, homes := [tier] }

theorem Placement.eq_sole {one : Placement} {literals : Clause} {tier : Tier}
    (clause : one.literals = literals) (placed : one.tier = tier) (homes : one.homes = [one.tier]) :
    one = .sole literals tier := by
  obtain ⟨_, _, _⟩ := one
  dsimp only at clause placed homes
  rw [clause, homes, placed]
  rfl

/-- How the clause under a key stands, if there is one. -/
def LearntBase.placement? (base : LearntBase) (key : LearntKey) : Option Placement :=
  (base.find? key).map fun learnt =>
    { literals := learnt.literals
      tier := learnt.tier
      homes := [.core, .second, .active].filter fun tier => key ∈ base.tierKeys tier }

theorem LearntBase.placement?_of_homes {base : LearntBase} {key : LearntKey} {found : LearntClause}
    (present : base.find? key = some found)
    (homes : ∀ tier, key ∈ base.tierKeys tier ↔ tier = found.tier) :
    base.placement? key = some (.sole found.literals found.tier) := by
  have only : [Tier.core, .second, .active].filter (fun tier => key ∈ base.tierKeys tier) =
      [found.tier] := by
    simp only [homes]
    cases found.tier <;> rfl
  rw [placement?, present, Option.map_some, only]
  rfl

namespace ImportProgress

open LearntBase (Shelves)

variable {σ : Type}

theorem tiers_enterTier (key : LearntKey) (tier : Tier) (world : World σ Solver) :
    (enterTier key tier world).host.learnt.tiers = world.host.learnt.tiers := by
  cases tier with
  | core => rfl
  | second => exact LearntBase.tiers_setTouched ..
  | active => exact LearntBase.tiers_bumpClause ..

/-- A clause of two literals or more goes to the end of its tier. -/
theorem tiers_effect (settings : TierSettings) {clause : Clause} (plural : 2 ≤ clause.length)
    (world : World σ Solver) :
    let stored := world.host.learnt.allocate clause clause.distance
    (effect settings clause world).host.learnt.tiers =
      (stored.2.markTier stored.1
        (tierOfCopies settings (clause, announced settings clause world))).tiers := by
  have noted (world : World σ Solver) :
      (noteCopy settings clause world).2.host.learnt = world.host.learnt := by
    rw [noteCopy_eq]
  rw [effect_of_plural settings plural, learnt_settle, LearntBase.tiers_decayClauses,
    LearntBase.tiers_attach, tiers_enterTier, ← learnt_recordDistance clause world]
  exact congrArg (fun learnt : LearntBase => (learnt.markTier _ _).tiers) (noted _)

/-- The tiers in which clauses are put that are taken in one after the other. -/
def tiersOf (settings : TierSettings) (copies : CopyCounts) (clauses : List Clause) : List Tier :=
  (placements settings copies clauses).map Prod.snd

theorem length_tiersOf (settings : TierSettings) (copies : CopyCounts) (clauses : List Clause) :
    (tiersOf settings copies clauses).length = clauses.countP fun clause => 2 ≤ clause.length := by
  rw [tiersOf, List.length_map, ← List.length_map Prod.fst, map_fst_placements,
    ← List.countP_eq_length_filter]

theorem shelves_effect (settings : TierSettings) {clause : Clause} (nonempty : clause ≠ [])
    {world : World σ Solver} (fresh : world.host.learnt.Fresh)
    (left : (effect settings clause world).host.learnt.clauses.size ≤ LearntBase.keyCount) :
    Shelves world.host.learnt (effect settings clause world).host.learnt
      (tiersOf settings world.host.copies [clause]) := by
  have totals : Totals settings world.host (effect settings clause world).host [clause] _ :=
    totals_worldAfter settings (List.forall_mem_singleton.mpr nonempty) world
  refine ⟨by rw [totals.size, length_tiersOf], fun tier => ?_⟩
  by_cases plural : 2 ≤ clause.length
  · have room : world.host.learnt.clauses.size < LearntBase.keyCount := by
      rw [totals.size, List.countP_singleton, if_pos (decide_eq_true plural)] at left
      exact left
    rw [LearntBase.tierKeys, tiers_effect settings plural, tiersOf, placements,
      announcements_singleton _ _ plural, announced_eq]
    exact (LearntBase.shelves_allocate fresh room clause clause.distance _).keys tier
  · have positive := List.length_pos_iff.mpr nonempty
    obtain ⟨literal, rfl⟩ := List.length_eq_one_iff.mp (by omega : clause.length = 1)
    have unstored : (effect settings [literal] world).host.learnt = world.host.learnt :=
      (learnt_integrateUnit ⟨{}, {}, recordDistance [literal] world⟩ literal).trans
        (learnt_recordDistance [literal] world)
    rw [unstored]
    exact (List.append_nil _).symm

theorem shelves_worldAfter (settings : TierSettings) {clauses : List Clause}
    (nonempty : ∀ clause ∈ clauses, clause ≠ []) {world : World σ Solver}
    (fresh : world.host.learnt.Fresh)
    (left : (worldAfter settings clauses world).host.learnt.clauses.size ≤ LearntBase.keyCount) :
    Shelves world.host.learnt (worldAfter settings clauses world).host.learnt
      (tiersOf settings world.host.copies clauses) := by
  induction clauses generalizing world with
  | nil => exact .refl world.host.learnt
  | cons clause clauses ih =>
    obtain ⟨first, others⟩ := List.forall_mem_cons.mp nonempty
    have grown := (totals_worldAfter settings others (effect settings clause world)).size
    have one := shelves_effect settings first fresh
      (Nat.le_trans (Nat.le.intro grown.symm) left)
    have copies : (effect settings clause world).host.copies =
        copiesAfter settings world.host.copies [clause] :=
      (totals_worldAfter settings (List.forall_mem_singleton.mpr first) world).copies
    have both := one.trans (ih others (one.fresh fresh) left)
    rw [copies, tiersOf, tiersOf, ← List.map_append, ← placements_append] at both
    exact both

end ImportProgress

/-- A list is what is read off its places one after the other. -/
theorem filterMap_range' {α : Type} {read : Nat → Option α} {list : List α} {start : Nat}
    (reads : ∀ index (inside : index < list.length), read (start + index) = some list[index]) :
    (List.range' start list.length).filterMap read = list := by
  induction list generalizing start with
  | nil => rfl
  | cons first rest ih =>
    have here : read start = some first := reads 0 (Nat.succ_pos _)
    rw [List.length_cons, List.range'_succ, List.filterMap_cons_some here]
    refine congrArg (first :: ·) (ih fun index inside => ?_)
    rw [Nat.add_assoc, Nat.add_comm 1]
    exact reads (index + 1) (Nat.succ_lt_succ inside)

namespace Solver

/-- No tier of a solver has keys but those that were given out, whatever has happened to it. -/
theorem fresh_follow {σ : Type} [Store σ] (config : Config) (events : List (SolverEvent σ)) :
    ((starting config).follow events).learnt.Fresh := by
  intro tier key inside
  obtain ⟨found, present, -⟩ := (filed_follow config events).own key tier inside
  exact LearntBase.made_of_find? present

variable {before after : Solver}

/-- The clauses stored behind those that were there before, as they stand. -/
def shelvedSince (before after : Solver) : List Placement :=
  (List.range' before.learnt.clauses.size
    (after.learnt.clauses.size - before.learnt.clauses.size)).filterMap fun index =>
      after.learnt.placement? ⟨index⟩

/-- What is stored stands there with its literals, whatever keys there are. -/
theorem map_literals_shelvedSince {new : List Clause}
    (contents : after.learnt.contents = before.learnt.contents ++ new.map some) :
    (before.shelvedSince after).map Placement.literals = new := by
  have size : after.learnt.clauses.size - before.learnt.clauses.size = new.length := by
    rw [← LearntBase.length_contents, contents, List.length_append, LearntBase.length_contents,
      List.length_map, Nat.add_sub_cancel_left]
  rw [shelvedSince, size, List.map_filterMap]
  refine filterMap_range' fun index inside => ?_
  have seen := after.learnt.contents_getElem? ⟨before.learnt.clauses.size + index⟩
  rw [contents, ← LearntBase.length_contents, List.getElem?_append_right (Nat.le_add_right ..),
    Nat.add_sub_cancel_left, List.getElem?_map, List.getElem?_eq_getElem inside] at seen
  rw [LearntBase.placement?, Option.map_map, ← LearntBase.length_contents]
  exact seen.symm

/-- What is put in tiers stands in these alone. -/
theorem shelvedSince_of_shelves {placed : List (Clause × Tier)} (fresh : before.learnt.Fresh)
    (shelves : before.learnt.Shelves after.learnt (placed.map Prod.snd))
    (ranked : after.learnt.ranked = before.learnt.ranked ++ placed.map some) :
    before.shelvedSince after = placed.map fun entry => .sole entry.1 entry.2 := by
  have size : after.learnt.clauses.size - before.learnt.clauses.size =
      (placed.map fun entry => Placement.sole entry.1 entry.2).length := by
    rw [shelves.size, Nat.add_sub_cancel_left, List.length_map, List.length_map]
  rw [shelvedSince, size]
  refine filterMap_range' fun index inside => ?_
  rw [List.length_map] at inside
  let key : LearntKey := ⟨before.learnt.clauses.size + index⟩
  have place : key.index - before.learnt.clauses.size = index := Nat.add_sub_cancel_left ..
  have new : before.learnt.clauses.size ≤ key.index := Nat.le_add_right ..
  rw [← place] at inside
  obtain ⟨found, present, same, homes⟩ := shelves.found ranked fresh new inside
  rw [place] at inside same
  rw [List.getElem?_eq_getElem inside, Option.some.injEq] at same
  rw [List.getElem_map, same]
  exact LearntBase.placement?_of_homes present homes

end Solver

end ClauseSharing
