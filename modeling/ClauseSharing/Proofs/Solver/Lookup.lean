import ClauseSharing.Proofs.Solver.Contents

/-! # What each command does to learnt clauses

What is found under a key and in a tier after a clause was stored, put in a tier, attached or
removed. A command with a key under which nothing is found changes no clause and no list. -/

namespace ClauseSharing

namespace TierLists

theorem get_set (lists : TierLists) (tier other : Tier) (keys : List LearntKey) :
    (lists.set tier keys).get other = if other = tier then keys else lists.get other := by
  cases tier <;> cases other <;> rfl

theorem get_append (lists : TierLists) (tier other : Tier) (key : LearntKey) :
    (lists.append tier key).get other =
      lists.get other ++ if other = tier then [key] else [] := by
  rw [append, get_set]
  split
  · rename_i same
    rw [same]
  · rw [List.append_nil]

/-- Where a key is in no other tier, taking it out of its own takes it out of all. -/
theorem get_remove {lists : TierLists} {tier : Tier} {key : LearntKey}
    (own : ∀ other, key ∈ lists.get other → other = tier) (other : Tier) :
    (lists.remove tier key).get other = (lists.get other).filter (· ≠ key) := by
  rw [remove, get_set]
  split
  · rename_i same
    rw [same]
  · rename_i different
    have absent : key ∉ lists.get other := fun inside => different (own other inside)
    refine (List.filter_eq_self.mpr fun held inside => ?_).symm
    exact decide_eq_true (ne_of_mem_of_not_mem inside absent)

end TierLists

namespace LearntBase

variable {base : LearntBase} {key : LearntKey} {found : LearntClause}

/-- What is looked at of a clause is the same in two bases that look the same. -/
theorem map_find?_of_seen {α : Type} {view : LearntClause → α} {next base : LearntBase}
    (same : next.seen view = base.seen view) (key : LearntKey) :
    (next.find? key).map view = (base.find? key).map view := by
  rw [← seen_getElem?, ← seen_getElem?, same]

/-- What is found is under a key that was made. -/
theorem made_of_find? (present : base.find? key = some found) : key.index < base.clauses.size := by
  have slot := Option.join_eq_some_iff.mp present
  exact (Array.getElem?_eq_some_iff.mp slot).1

theorem find?_store (made : key.index < base.clauses.size) (learnt : Option LearntClause)
    (other : LearntKey) :
    (base.store key learnt).find? other = if other = key then learnt else base.find? other := by
  rw [find?, store, Array.getElem?_setIfInBounds]
  by_cases same : other = key
  · subst same
    rw [if_pos rfl, if_pos made, if_pos rfl]
    rfl
  · have apart : key.index ≠ other.index := fun equal => same (LearntKey.ext equal.symm)
    rw [if_neg apart, if_neg same]
    rfl

theorem find?_allocate (base : LearntBase) (literals : Clause) (distance : Nat)
    (other : LearntKey) :
    (base.allocate literals distance).2.find? other =
      if other.index = base.clauses.size then some { literals, distance }
      else base.find? other := by
  rw [find?, allocate, Array.getElem?_push]
  split <;> rfl

/-- A clause stored again with a change is found with the change. -/
theorem find?_store_change (present : base.find? key = some found)
    (change : LearntClause → LearntClause) (other : LearntKey) :
    (base.store key (some (change found))).find? other =
      (base.find? other).map fun held => if other = key then change held else held := by
  rw [find?_store (made_of_find? present)]
  split
  · rename_i same
    rw [same, present, Option.map_some]
  · rw [Option.map_id']

section Absent

variable (absent : base.find? key = none)

include absent

/-- Nothing is changed where nothing is found. -/
theorem find?_change_of_absent (change : LearntClause → LearntClause) (other : LearntKey) :
    ((base.find? other).map fun held => if other = key then change held else held) =
      base.find? other := by
  by_cases same : other = key
  · rw [same, absent, Option.map_none]
  · simp only [if_neg same, Option.map_id']

theorem markTier_of_absent (tier : Tier) : base.markTier key tier = base := by
  rw [markTier, absent]

theorem setTouched_of_absent (conflicts : Nat) : base.setTouched key conflicts = base := by
  rw [setTouched, absent]

theorem attach_of_absent : base.attach key = base := by
  rw [attach, absent]

theorem remove_of_absent : base.remove key = (none, base) := by
  rw [remove, absent]

/-- Raising the activity of no clause scales down all others at most. -/
theorem bumpClause_of_absent : base.bumpClause key = base ∨ base.bumpClause key = base.rescale := by
  have scaled : base.rescale.find? key = none := by
    have blind : ∀ (learnt : LearntClause) (activity : Float),
        ({ learnt with activity } : LearntClause).literals = learnt.literals := fun _ _ => rfl
    have seen := base.rescale.seen_getElem? LearntClause.literals key
    rw [seen_rescale blind, seen_getElem?, absent] at seen
    exact Option.map_eq_none_iff.mp seen.symm
  unfold bumpClause
  split
  · exact .inr (by simp only [scaled])
  · exact .inl (by simp only [absent])

end Absent

theorem find?_markTier (base : LearntBase) (key : LearntKey) (tier : Tier) (other : LearntKey) :
    (base.markTier key tier).find? other =
      (base.find? other).map fun found => if other = key then { found with tier } else found := by
  cases present : base.find? key with
  | none =>
    rw [find?_change_of_absent present fun found => { found with tier }, markTier_of_absent present]
  | some found =>
    simp only [markTier, present]
    exact find?_store_change present (fun found => { found with tier }) other

theorem find?_attach (base : LearntBase) (key other : LearntKey) :
    (base.attach key).find? other =
      (base.find? other).map fun found =>
        if other = key then { found with attached := true } else found := by
  cases present : base.find? key with
  | none =>
    rw [find?_change_of_absent present fun found => { found with attached := true },
      attach_of_absent present]
  | some found =>
    have changed := find?_store_change present (fun found => { found with attached := true }) other
    simp only [attach, present]
    split
    · rename_i attached
      have same : ({ found with attached := true } : LearntClause) = found := by
        rw [← attached]
      rw [← changed, find?_store (made_of_find? present), same]
      split
      · rename_i here
        rw [here, present]
      · rfl
    · exact changed

theorem find?_remove (base : LearntBase) (key other : LearntKey) :
    (base.remove key).2.find? other = if other = key then none else base.find? other := by
  cases present : base.find? key with
  | none =>
    rw [remove_of_absent present]
    split
    · rename_i same
      rw [same, present]
    · rfl
  | some found =>
    simp only [remove, present]
    exact find?_store (made_of_find? present) none other

theorem size_store (base : LearntBase) (key : LearntKey) (learnt : Option LearntClause) :
    (base.store key learnt).clauses.size = base.clauses.size := Array.size_setIfInBounds

theorem size_allocate (base : LearntBase) (literals : Clause) (distance : Nat) :
    (base.allocate literals distance).2.clauses.size = base.clauses.size + 1 := by
  rw [allocate, Array.size_push]

theorem size_markTier (base : LearntBase) (key : LearntKey) (tier : Tier) :
    (base.markTier key tier).clauses.size = base.clauses.size := by
  unfold markTier
  split
  · rfl
  · exact base.size_store key _

theorem size_attach (base : LearntBase) (key : LearntKey) :
    (base.attach key).clauses.size = base.clauses.size := by
  unfold attach
  split
  · rfl
  · split
    · rfl
    · exact base.size_store key _

theorem size_remove (base : LearntBase) (key : LearntKey) :
    (base.remove key).2.clauses.size = base.clauses.size := by
  unfold remove
  split
  · rfl
  · exact base.size_store key _

theorem tiers_setTouched (base : LearntBase) (key : LearntKey) (conflicts : Nat) :
    (base.setTouched key conflicts).tiers = base.tiers := by
  unfold setTouched
  split <;> rfl

theorem tiers_attach (base : LearntBase) (key : LearntKey) :
    (base.attach key).tiers = base.tiers := by
  unfold attach
  split
  · rfl
  · split <;> rfl

theorem tiers_bumpClause (base : LearntBase) (key : LearntKey) :
    (base.bumpClause key).tiers = base.tiers := by
  unfold bumpClause
  split <;> dsimp only <;> split <;> rfl

theorem tiers_decayClauses (base : LearntBase) : base.decayClauses.tiers = base.tiers := by
  unfold decayClauses
  dsimp only
  split <;> rfl

theorem watches_markTier (base : LearntBase) (key : LearntKey) (tier : Tier) :
    (base.markTier key tier).watches = base.watches := by
  unfold markTier
  split <;> rfl

theorem watches_setTouched (base : LearntBase) (key : LearntKey) (conflicts : Nat) :
    (base.setTouched key conflicts).watches = base.watches := by
  unfold setTouched
  split <;> rfl

theorem watches_bumpClause (base : LearntBase) (key : LearntKey) :
    (base.bumpClause key).watches = base.watches := by
  unfold bumpClause
  split <;> dsimp only <;> split <;> rfl

theorem watches_decayClauses (base : LearntBase) : base.decayClauses.watches = base.watches := by
  unfold decayClauses
  dsimp only
  split <;> rfl

section Tiers

variable (own : ∀ tier, key ∈ base.tierKeys tier →
  ∃ found, base.find? key = some found ∧ found.tier = tier)

include own

theorem filter_of_absent (absent : base.find? key = none) (tier : Tier) :
    (base.tierKeys tier).filter (· ≠ key) = base.tierKeys tier := by
  have nowhere : key ∉ base.tierKeys tier := by
    intro inside
    obtain ⟨found, present, _⟩ := own tier inside
    exact Option.some_ne_none found (present.symm.trans absent)
  rw [List.filter_eq_self]
  intro held inside
  exact decide_eq_true (ne_of_mem_of_not_mem inside nowhere)

theorem get_remove_of_present (present : base.find? key = some found) (tier : Tier) :
    (base.tiers.remove found.tier key).get tier = (base.tierKeys tier).filter (· ≠ key) := by
  refine TierLists.get_remove (fun other inside => ?_) tier
  obtain ⟨held, same, here⟩ := own other inside
  rw [← here, Option.some.inj (present.symm.trans same)]

/-- A key is put at the end of a tier, out of the place it had, if a clause is found under it. -/
theorem tierKeys_markTier (tier other : Tier) :
    (base.markTier key tier).tierKeys other =
      (base.tierKeys other).filter (· ≠ key) ++
        if other = tier ∧ (base.find? key).isSome then [key] else [] := by
  cases present : base.find? key with
  | none =>
    rw [markTier_of_absent present, filter_of_absent own present, Option.isSome_none,
      if_neg (fun both => Bool.false_ne_true both.2), List.append_nil]
  | some found =>
    simp only [markTier, present, Option.isSome_some, and_true]
    rw [tierKeys, TierLists.get_append, get_remove_of_present own present]

theorem mem_tierKeys_markTier (tier here : Tier) (other : LearntKey) :
    other ∈ (base.markTier key tier).tierKeys here ↔
      (other ∈ base.tierKeys here ∧ other ≠ key) ∨
        (other = key ∧ here = tier ∧ (base.find? key).isSome = true) := by
  rw [tierKeys_markTier own, List.mem_append, List.mem_filter, decide_eq_true_iff]
  refine or_congr Iff.rfl ?_
  split
  · rename_i placed
    rw [List.mem_singleton, and_iff_left placed]
  · rename_i elsewhere
    exact iff_of_false List.not_mem_nil fun both => elsewhere both.2

/-- A key is taken out of the tier it is in. -/
theorem tierKeys_remove (tier : Tier) :
    (base.remove key).2.tierKeys tier = (base.tierKeys tier).filter (· ≠ key) := by
  cases present : base.find? key with
  | none => rw [remove_of_absent present, filter_of_absent own present]
  | some found =>
    simp only [remove, present]
    exact get_remove_of_present own present tier

end Tiers

end LearntBase

end ClauseSharing
