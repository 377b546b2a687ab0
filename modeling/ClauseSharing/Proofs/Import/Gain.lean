import ClauseSharing.Peer.Import

/-! # What one clause comes to

What a clause does to the world when it is given to the host depends on the clause and the world
alone, and so does what it adds to the counts. Nothing that was counted before plays a part in
either (`ImportProgress.integrate_of_unopposed`, `ImportProgress.integrate_of_opposed`). -/

namespace ClauseSharing

namespace Tally

/-- Tallies are added count by count. -/
instance : Add Tally where
  add one other := {
    unitsPublished := one.unitsPublished + other.unitsPublished
    clausesPublished := one.clausesPublished + other.clausesPublished
    clausesSkipped := one.clausesSkipped + other.clausesSkipped
    recordsImported := one.recordsImported + other.recordsImported
    unitsUseful := one.unitsUseful + other.unitsUseful
    unitsRedundant := one.unitsRedundant + other.unitsRedundant
    unitsConflicting := one.unitsConflicting + other.unitsConflicting
    importedCore := one.importedCore + other.importedCore
    importedSecond := one.importedSecond + other.importedSecond
    importedActive := one.importedActive + other.importedActive
    copiesLifted := one.copiesLifted + other.copiesLifted }

theorem add_assoc (one two three : Tally) : one + two + three = one + (two + three) := by
  apply Tally.ext <;> exact Nat.add_assoc ..

theorem add_comm (one other : Tally) : one + other = other + one := by
  apply Tally.ext <;> exact Nat.add_comm ..

theorem zero_add (tally : Tally) : {} + tally = tally := by
  apply Tally.ext <;> exact Nat.zero_add _

/-- The part of a tally that counts clauses that have been taken in. -/
def taken (tally : Tally) : Tally where
  unitsUseful := tally.unitsUseful
  unitsRedundant := tally.unitsRedundant
  importedCore := tally.importedCore
  importedSecond := tally.importedSecond
  importedActive := tally.importedActive
  copiesLifted := tally.copiesLifted

instance : Std.Associative fun one other : Tally => one + other := ⟨add_assoc⟩

instance : Std.Commutative fun one other : Tally => one + other := ⟨add_comm⟩

end Tally

namespace ImportReport

/-- The report with more clauses counted that were taken in. -/
def plus (report : ImportReport) (gain : Tally) : ImportReport :=
  { report with
    useful := report.useful + gain.unitsUseful
    redundant := report.redundant + gain.unitsRedundant
    core := report.core + gain.importedCore
    second := report.second + gain.importedSecond
    active := report.active + gain.importedActive }

theorem plus_plus (report : ImportReport) (one other : Tally) :
    (report.plus one).plus other = report.plus (one + other) := by
  apply ImportReport.ext <;> first | rfl | exact Nat.add_assoc ..

end ImportReport

namespace ImportProgress

variable {ω κ : Type} [Host ω κ]

/-- What giving a clause to the host does to the world. -/
def effect (settings : TierSettings) (clause : Clause) (world : ω) : ω :=
  (integrate settings ⟨{}, {}, world⟩ clause).2.world

/-- How many copies the host announces of a clause that it has just stored. -/
def announced (settings : TierSettings) (clause : Clause) (world : ω) : Nat :=
  (noteCopy settings clause
    (Host.allocate clause clause.distance (recordDistance clause world)).2).1

/-- What a clause of two literals or more adds to the counts: it goes to its tier, and it may just
have reached the number of copies for the second one. -/
def tierGain (settings : TierSettings) (distance copies : Nat) : Tally where
  importedCore := if Tier.classify settings distance copies = .core then 1 else 0
  importedSecond := if Tier.classify settings distance copies = .second then 1 else 0
  importedActive := if Tier.classify settings distance copies = .active then 1 else 0
  copiesLifted := if copies = settings.minCopies.value.toNat then 1 else 0

/-- What a clause that is taken in adds to the counts, where a unit is useful or redundant. -/
def gain (settings : TierSettings) (world : ω) : Clause → Tally
  | [] => {}
  | [literal] =>
    match Host.value? literal.atom (recordDistance [literal] world) with
    | none => { unitsUseful := 1 }
    | some _ => { unitsRedundant := 1 }
  | clause => tierGain settings clause.distance (announced settings clause world)

theorem copiesLifted_gain_singleton (settings : TierSettings) (world : ω) (literal : Literal) :
    (gain settings world [literal]).copiesLifted = 0 := by
  rw [gain]
  cases Host.value? literal.atom (recordDistance [literal] world) <;> rfl

theorem gain_of_plural (settings : TierSettings) (world : ω) {clause : Clause}
    (plural : 2 ≤ clause.length) :
    gain settings world clause = tierGain settings clause.distance
      (announced settings clause world) := by
  match clause, plural with
  | first :: second :: rest, _ => rfl

/-- Whether a clause is a unit against the value that its atom has when the host has been told its
distance. -/
def Opposes (world : ω) (clause : Clause) : Prop :=
  ∃ literal, clause = [literal] ∧
    Host.value? literal.atom (recordDistance clause world) = some (!literal.positive)

theorem opposes_singleton {world : ω} {literal : Literal} :
    Opposes world [literal] ↔
      Host.value? literal.atom (recordDistance [literal] world) = some (!literal.positive) := by
  constructor
  · rintro ⟨other, same, against⟩
    rwa [← List.singleton_inj.mp same] at against
  · exact fun against => ⟨literal, rfl, against⟩

theorem not_opposes_of_length {world : ω} {clause : Clause} (plural : clause.length ≠ 1) :
    ¬Opposes world clause := by
  rintro ⟨literal, rfl, -⟩
  exact plural rfl

variable (ω) in
/-- Whether no atom changes its value when the host is told a distance. -/
def KeepsValues : Prop := ∀ (distance : Nat) (atom : Atom) (world : ω),
  Host.value? atom (Host.recordDistance distance world) = Host.value? atom world

/-- Where telling a distance changes no value, a unit is measured by the values as they are. -/
theorem opposes_iff_of_keepsValues (keeps : KeepsValues ω) {world : ω} {literal : Literal} :
    Opposes world [literal] ↔ Host.value? literal.atom world = some (!literal.positive) := by
  rw [opposes_singleton, recordDistance]
  split
  · rw [keeps]
  · exact Iff.rfl

theorem world_countTier (progress : ImportProgress ω) (tier : Tier) :
    (progress.countTier tier).world = progress.world := by
  cases tier <;> rfl

theorem world_lifted (progress : ImportProgress ω) (reached : Prop) [Decidable reached] :
    (if reached then progress.countLifted else progress).world = progress.world := by
  split <;> rfl

/-- What a clause of two literals or more comes to in the world: it is stored, a copy of it may be
noted, and it goes to its tier. -/
theorem world_integrateClause (settings : TierSettings) (progress : ImportProgress ω)
    (clause : Clause) :
    let stored := Host.allocate clause clause.distance progress.world
    let noted := noteCopy settings clause stored.2
    let tier := Tier.classify settings clause.distance noted.1
    (progress.integrateClause settings clause).world =
      settle stored.1 (enterTier stored.1 tier (Host.markTier stored.1 tier noted.2)) := by
  unfold integrateClause
  simp only [act, world_countTier, world_lifted]

/-- What a clause of two literals or more does to the world when it is given to the host. -/
theorem effect_of_plural (settings : TierSettings) {clause : Clause} (plural : 2 ≤ clause.length)
    (world : ω) :
    let stored := Host.allocate clause clause.distance (recordDistance clause world)
    let noted := noteCopy settings clause stored.2
    let tier := Tier.classify settings clause.distance noted.1
    effect settings clause world =
      settle stored.1 (enterTier stored.1 tier (Host.markTier stored.1 tier noted.2)) := by
  match clause, plural with
  | first :: second :: rest, _ => exact world_integrateClause settings ⟨{}, {}, _⟩ _

variable {settings : TierSettings}

theorem integrateClause_eq (progress : ImportProgress ω) (clause : Clause) {copies : Nat}
    (announces : (noteCopy settings clause
      (Host.allocate clause clause.distance progress.world).2).1 = copies) :
    progress.integrateClause settings clause =
      ⟨progress.tally + tierGain settings clause.distance copies,
        progress.report.plus (tierGain settings clause.distance copies),
        (integrateClause settings ⟨{}, {}, progress.world⟩ clause).world⟩ := by
  unfold integrateClause tierGain
  dsimp only
  rw [announces]
  by_cases reached : copies = settings.minCopies.value.toNat
  · simp only [if_pos reached]
    cases Tier.classify settings clause.distance copies <;> rfl
  · simp only [if_neg reached]
    cases Tier.classify settings clause.distance copies <;> rfl

/-- A clause that the values allow is taken in, whatever has been counted before. -/
theorem integrate_of_unopposed {clause : Clause} (nonempty : clause ≠ [])
    (progress : ImportProgress ω) (unopposed : ¬Opposes progress.world clause) :
    progress.integrate settings clause =
      (.ok (), ⟨progress.tally + gain settings progress.world clause,
        progress.report.plus (gain settings progress.world clause),
        effect settings clause progress.world⟩) := by
  match clause, nonempty with
  | [literal], _ =>
    simp only [integrate, effect, gain, integrateUnit, act]
    cases held : Host.value? literal.atom (recordDistance [literal] progress.world) with
    | none => rfl
    | some value =>
      have same : value = literal.positive := by
        apply Decidable.byContradiction
        intro differs
        exact unopposed (opposes_singleton.mpr (by rw [held, Bool.eq_not_of_ne differs]))
      simp only [if_pos same]
      rfl
  | first :: second :: rest, _ => exact congrArg _ (integrateClause_eq _ _ rfl)

/-- A unit against the value of its atom marks the host and is counted as a contradiction. -/
theorem integrate_of_opposed {literal : Literal} (progress : ImportProgress ω)
    (opposes : Opposes progress.world [literal]) :
    progress.integrate settings [literal] =
      (.ok (), ⟨progress.tally + { unitsConflicting := 1 },
        { progress.report with contradiction := true },
        Host.setUnsatisfiable (recordDistance [literal] progress.world)⟩) := by
  have opposed := opposes_singleton.mp opposes
  have differs : (!literal.positive) ≠ literal.positive := (Bool.not_eq_self _).mp
  simp only [integrate, integrateUnit, act, opposed, if_neg differs]
  rfl

end ImportProgress

end ClauseSharing
