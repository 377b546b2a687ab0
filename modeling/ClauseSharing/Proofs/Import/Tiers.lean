import ClauseSharing.Proofs.Import.Placement
import ClauseSharing.Proofs.Solver.Copies

/-! # The tier law

The tier of an imported clause depends on its length and on how many copies of it there have been,
over any number of imports and whatever they end with (`ImportRun.tier_law`). The count of copies is
capped and announces its first copy as none, yet no trace of either is left in the law. -/

namespace ClauseSharing

open ImportProgress

/-- How long a clause of a tier is kept, against one of another tier. -/
def Tier.worth : Tier → Nat
  | .core => 2
  | .second => 1
  | .active => 0

/-- The sets that are at least so often in a list. -/
def reached (number : Nat) (seen : List (Finset Literal)) : Finset (Finset Literal) :=
  seen.toFinset.filter fun set => number ≤ seen.count set

section

variable {number : Nat} {seen : List (Finset Literal)}

theorem mem_reached (positive : 1 ≤ number) {set : Finset Literal} :
    set ∈ reached number seen ↔ number ≤ seen.count set := by
  rw [reached, Finset.mem_filter, List.mem_toFinset, and_iff_right_iff_imp]
  intro enough
  exact List.count_pos_iff.mp (Nat.lt_of_lt_of_le positive enough)

/-- One more set is one more that is there so often just if it was there once less before. -/
theorem card_reached_concat (positive : 1 ≤ number) (set : Finset Literal) :
    (reached number (seen ++ [set])).card =
      (reached number seen).card + if seen.count set + 1 = number then 1 else 0 := by
  have counts (other : Finset Literal) :
      (seen ++ [set]).count other = seen.count other + if set = other then 1 else 0 := by
    rw [List.count_append, List.count_singleton]
    simp only [beq_iff_eq]
  by_cases now : seen.count set + 1 = number
  · have absent : set ∉ reached number seen := by
      rw [mem_reached positive]
      omega
    have grown : reached number (seen ++ [set]) = insert set (reached number seen) := by
      ext other
      rw [Finset.mem_insert, mem_reached positive, mem_reached positive, counts]
      by_cases same : set = other
      · subst same
        rw [if_pos rfl]
        exact iff_of_true (Nat.le_of_eq now.symm) (.inl rfl)
      · rw [if_neg same, Nat.add_zero]
        exact ⟨.inr, fun either => either.resolve_left fun equal => same equal.symm⟩
    rw [grown, Finset.card_insert_of_notMem absent, if_pos now]
  · have same : reached number (seen ++ [set]) = reached number seen := by
      ext other
      rw [mem_reached positive, mem_reached positive, counts]
      by_cases same : set = other
      · subst same
        rw [if_pos rfl]
        omega
      · rw [if_neg same, Nat.add_zero]
    rw [same, if_neg now, Nat.add_zero]

end

namespace TierSettings

variable (settings : TierSettings)

/-- Those of the clauses whose copies are counted. -/
def counted (clauses : List Clause) : List Clause :=
  clauses.filter fun clause => Counts settings clause

/-- The literals of each clause whose copies are counted. -/
def sightings (clauses : List Clause) : List (Finset Literal) :=
  (settings.counted clauses).map List.toFinset

/-- The sets of literals under which the copies of these clauses are counted. -/
def countedKeys (clauses : List Clause) : List LiteralSet :=
  (settings.counted clauses).map LiteralSet.ofClause

/-- The tier of a clause of two literals or more that is imported after others. -/
def lawfulTier (earlier : List Clause) (clause : Clause) : Tier :=
  let least := settings.minCopies.value.toNat
  let copies := (settings.sightings (earlier ++ [clause])).count clause.toFinset
  if clause.distance ≤ settings.coreCut.value.toNat ∨
      clause.distance ≤ settings.copyCut.value.toNat ∧ least + 1 ≤ copies then .core
  else if clause.distance ≤ settings.secondCut.value.toNat ∨
      clause.distance ≤ settings.copyCut.value.toNat ∧ copies = least ∧ 2 ≤ least then .second
  else .active

variable {settings} {clauses : List Clause} {clause : Clause}

theorem counted_append (front rest : List Clause) :
    settings.counted (front ++ rest) = settings.counted front ++ settings.counted rest :=
  List.filter_append ..

theorem counted_singleton (counts : Counts settings clause) :
    settings.counted [clause] = [clause] :=
  List.filter_eq_self.mpr fun _ inside => List.mem_singleton.mp inside ▸ decide_eq_true counts

theorem counted_singleton_of_not (uncounted : ¬Counts settings clause) :
    settings.counted [clause] = [] :=
  List.filter_eq_nil_iff.mpr fun _ inside => by
    rwa [List.mem_singleton.mp inside, decide_eq_true_iff]

theorem count_countedKeys (clauses : List Clause) (clause : Clause) :
    (settings.countedKeys clauses).count (.ofClause clause) =
      (settings.sightings clauses).count clause.toFinset :=
  LiteralSet.count_map_ofClause (settings.counted clauses) clause

theorem sightings_append (front rest : List Clause) :
    settings.sightings (front ++ rest) = settings.sightings front ++ settings.sightings rest := by
  rw [sightings, counted_append, List.map_append, sightings, sightings]

theorem sightings_concat (counts : Counts settings clause) (clauses : List Clause) :
    settings.sightings (clauses ++ [clause]) = settings.sightings clauses ++ [clause.toFinset] := by
  have own : settings.sightings [clause] = [clause.toFinset] := by
    rw [sightings, counted_singleton counts, List.map_singleton]
  rw [sightings_append, own]

theorem sightings_concat_of_not (uncounted : ¬Counts settings clause) (clauses : List Clause) :
    settings.sightings (clauses ++ [clause]) = settings.sightings clauses := by
  have none : settings.sightings [clause] = [] := by
    rw [sightings, counted_singleton_of_not uncounted, List.map_nil]
  rw [sightings_append, none, List.append_nil]

/-- The counts after these clauses have been imported into a solver that had counted nothing. -/
def countsAfter (settings : TierSettings) (clauses : List Clause) : CopyCounts :=
  (CopyCounts.starting settings.minCopies.value.toNat).noteAll (settings.countedKeys clauses)

theorem snd_sighted (clauses : List Clause) (clause : Clause) :
    (sighted settings clause (settings.countsAfter clauses)).2 =
      settings.countsAfter (clauses ++ [clause]) := by
  rw [sighted, countsAfter, countsAfter, countedKeys, countedKeys, counted_append]
  by_cases counts : Counts settings clause
  · rw [if_pos counts, counted_singleton counts, List.map_append, CopyCounts.noteAll_append]
    rfl
  · rw [if_neg counts, counted_singleton_of_not counts, List.append_nil]

section

variable (least : 1 ≤ settings.minCopies.value.toNat)
  (most : settings.minCopies.value.toNat ≤ 4294967294)

include least most

/-- What is announced of a counted copy: how many copies there are with this one, up to one past the
number that lifts a clause to the second tier, but nothing where it is the first. -/
theorem fst_sighted (counts : Counts settings clause) :
    (sighted settings clause (settings.countsAfter clauses)).1 =
      if (settings.sightings clauses).count clause.toFinset = 0 then 0
      else min ((settings.sightings clauses).count clause.toFinset + 1)
        (settings.minCopies.value.toNat + 1) := by
  have cap : (CopyCounts.starting settings.minCopies.value.toNat).cap =
      settings.minCopies.value.toNat + 1 := by
    rw [CopyCounts.cap_starting, CopyCounts.greatestCount]
    omega
  rw [sighted, if_pos counts, countsAfter, CopyCounts.fst_note_noteAll, count_countedKeys, cap]

/-- The number for the core is announced just from one copy past the number for the second tier
on. -/
theorem announced_core_iff :
    (sighted settings clause (settings.countsAfter clauses)).1 = settings.coreCopies ↔
      Counts settings clause ∧ settings.minCopies.value.toNat + 1 ≤
        (settings.sightings (clauses ++ [clause])).count clause.toFinset := by
  have core : settings.coreCopies = settings.minCopies.value.toNat + 1 := by
    rw [coreCopies]
    omega
  rw [core]
  by_cases counts : Counts settings clause
  · rw [fst_sighted least most counts, sightings_concat counts, List.count_append,
      List.count_singleton_self, and_iff_right counts]
    split <;> omega
  · rw [sighted, if_neg counts]
    exact iff_of_false (Nat.succ_ne_zero _).symm fun both => counts both.1

/-- The number for the second tier is announced just for the copy with that number, and never where
a single copy would do. -/
theorem announced_second_iff :
    (sighted settings clause (settings.countsAfter clauses)).1 = settings.minCopies.value.toNat ↔
      Counts settings clause ∧
        (settings.sightings (clauses ++ [clause])).count clause.toFinset =
          settings.minCopies.value.toNat ∧
        2 ≤ settings.minCopies.value.toNat := by
  by_cases counts : Counts settings clause
  · rw [fst_sighted least most counts, sightings_concat counts, List.count_append,
      List.count_singleton_self, and_iff_right counts]
    split <;> omega
  · rw [sighted, if_neg counts]
    refine iff_of_false ?_ fun both => counts both.1
    dsimp only
    omega

/-- The tier that a clause is given is the lawful one. -/
theorem classify_eq_lawfulTier :
    Tier.classify settings clause.distance
        (sighted settings clause (settings.countsAfter clauses)).1 =
      settings.lawfulTier clauses clause := by
  simp only [Tier.classify, lawfulTier, announced_core_iff least most,
    announced_second_iff least most]

end

/-- Among counted copies of the same length, a later one is in no lesser tier. -/
theorem worth_lawfulTier_le {middle : List Clause} {later : Clause}
    (counts : Counts settings clause) (same : later.toFinset = clause.toFinset)
    (length : later.length = clause.length) :
    (settings.lawfulTier clauses clause).worth ≤
      (settings.lawfulTier (clauses ++ clause :: middle) later).worth := by
  have distance :
      later.distance = clause.distance := by rw [Clause.distance, length, Clause.distance]
  have laterCounts : Counts settings later := by rwa [Counts, distance]
  have more : (settings.sightings (clauses ++ [clause])).count clause.toFinset <
      (settings.sightings (clauses ++ clause :: middle ++ [later])).count later.toFinset := by
    have split : clauses ++ clause :: middle = clauses ++ [clause] ++ middle := by simp
    rw [sightings_concat laterCounts, List.count_append, List.count_singleton_self, split,
      sightings_append (clauses ++ [clause]) middle, List.count_append, same]
    omega
  unfold lawfulTier
  dsimp only
  rw [distance]
  split
  · rename_i core
    rw [if_pos (core.imp_right fun both => ⟨both.1, by omega⟩)]
  · split
    · rename_i second
      split
      · decide
      · rename_i noCore
        rcases second with near | ⟨_, exact, _⟩
        · rw [if_pos (.inl near)]
        · exact absurd (.inr ⟨counts, by omega⟩) noCore
    · exact Nat.zero_le _

end TierSettings

end ClauseSharing
