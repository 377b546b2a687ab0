import ClauseSharing.Solver.LearntBase

/-! # What is kept of learnt clauses

A base is seen through what is looked at of each clause: its literals alone (`LearntBase.contents`),
or its literals and its tier (`LearntBase.ranked`). Storing a clause adds it, removing one takes it
out, and what else is done to the base changes neither, except that a clause put in a tier has that
tier. -/

namespace ClauseSharing

namespace LearntBase

variable {α : Type}

/-- What is seen of every clause that was ever stored, in order of keys, nothing for those
removed. -/
def seen (view : LearntClause → α) (base : LearntBase) : List (Option α) :=
  base.clauses.toList.map fun slot => slot.map view

/-- The literals of every clause that was ever stored, in order of keys, none for those removed. -/
def contents (base : LearntBase) : List (Option Clause) :=
  base.clauses.toList.map fun slot => slot.map LearntClause.literals

/-- The literals and the tier of every clause that was ever stored, in order of keys. -/
def ranked (base : LearntBase) : List (Option (Clause × Tier)) :=
  base.seen fun learnt => (learnt.literals, learnt.tier)

theorem contents_eq_ranked (base : LearntBase) : base.contents = base.ranked.map
    (Option.map Prod.fst) := by
  rw [ranked, seen, List.map_map, contents]
  refine List.map_congr_left fun slot _ => ?_
  cases slot <;> rfl

section

variable (view : LearntClause → α)

theorem length_seen (base : LearntBase) : (base.seen view).length = base.clauses.size := by
  rw [seen, List.length_map, Array.length_toList]

theorem length_contents (base : LearntBase) : base.contents.length = base.clauses.size :=
  base.length_seen LearntClause.literals

theorem seen_getElem? (base : LearntBase) (key : LearntKey) :
    (base.seen view)[key.index]?.join = (base.find? key).map view := by
  rw [seen, find?, List.getElem?_map, Array.getElem?_toList]
  cases base.clauses[key.index]? with
  | none => rfl
  | some slot => rfl

theorem seen_store (base : LearntBase) (key : LearntKey) (learnt : Option LearntClause) :
    (base.store key learnt).seen view = (base.seen view).set key.index (learnt.map view) := by
  rw [seen, seen, store, Array.toList_setIfInBounds, List.map_set]

variable {view}

/-- Storing a clause again that looks the same changes nothing that is seen. -/
theorem seen_store_same {base : LearntBase} {key : LearntKey} {found learnt : LearntClause}
    (present : base.find? key = some found) (same : view learnt = view found) :
    (base.store key (some learnt)).seen view = base.seen view := by
  have held := base.seen_getElem? view key
  rw [present, Option.map_some] at held
  rw [seen_store, Option.map_some, same]
  apply List.ext_getElem?
  intro index
  by_cases here : key.index = index
  · subst here
    have slot := Option.join_eq_some_iff.mp held
    rw [List.getElem?_set_self (List.getElem?_eq_some_iff.mp slot).1, slot]
  · rw [List.getElem?_set_ne here]

theorem seen_allocate (base : LearntBase) (literals : Clause) (distance : Nat) :
    (base.allocate literals distance).2.seen view =
      base.seen view ++ [some (view { literals, distance })] := by
  rw [allocate, seen, seen, Array.toList_push, List.map_append, List.map_singleton, Option.map_some]

theorem seen_markTier
    (blind : ∀ (learnt : LearntClause) (tier : Tier), view { learnt with tier } = view learnt)
    (base : LearntBase) (key : LearntKey) (tier : Tier) :
    (base.markTier key tier).seen view = base.seen view := by
  unfold markTier
  split
  · rfl
  · rename_i learnt present
    exact seen_store_same present (blind learnt tier)

theorem seen_setTouched
    (blind : ∀ (learnt : LearntClause) (touched : Nat), view { learnt with touched } = view learnt)
    (base : LearntBase) (key : LearntKey) (conflicts : Nat) :
    (base.setTouched key conflicts).seen view = base.seen view := by
  unfold setTouched
  split
  · rfl
  · rename_i present
    exact seen_store_same present (blind _ _)

theorem seen_attach
    (blind : ∀ (learnt : LearntClause) (attached : Bool),
      view { learnt with attached } = view learnt)
    (base : LearntBase) (key : LearntKey) : (base.attach key).seen view = base.seen view := by
  unfold attach
  split
  · rfl
  · rename_i learnt present
    split
    · rfl
    · exact seen_store_same present (blind _ _)

section

variable (blind : ∀ (learnt : LearntClause) (activity : Float),
  view { learnt with activity } = view learnt)

include blind

theorem seen_rescale (base : LearntBase) : base.rescale.seen view = base.seen view := by
  rw [rescale, seen, seen, Array.toList_map, List.map_map]
  apply List.map_congr_left
  intro slot _
  cases slot with
  | none => rfl
  | some learnt => exact congrArg some (blind learnt _)

theorem seen_bumpClause (base : LearntBase) (key : LearntKey) :
    (base.bumpClause key).seen view = base.seen view := by
  have scaled : (if base.greatestActivity < base.highest + base.bump then base.rescale
      else base).seen view = base.seen view := by
    split
    · exact seen_rescale blind base
    · rfl
  unfold bumpClause
  generalize (if base.greatestActivity < base.highest + base.bump then base.rescale
    else base) = raised at scaled ⊢
  dsimp only
  split
  · exact scaled
  · rename_i learnt present
    have same := seen_store_same present (blind learnt (learnt.activity + raised.bump))
    exact same.trans scaled

theorem seen_decayClauses (base : LearntBase) : base.decayClauses.seen view = base.seen view := by
  unfold decayClauses
  dsimp only
  split
  · exact seen_rescale blind _
  · rfl

end

end

theorem contents_getElem? (base : LearntBase) (key : LearntKey) :
    base.contents[key.index]?.join = (base.find? key).map LearntClause.literals :=
  base.seen_getElem? LearntClause.literals key

theorem contents_allocate (base : LearntBase) (literals : Clause) (distance : Nat) :
    (base.allocate literals distance).2.contents = base.contents ++ [some literals] :=
  base.seen_allocate literals distance

theorem contents_markTier (base : LearntBase) (key : LearntKey) (tier : Tier) :
    (base.markTier key tier).contents = base.contents :=
  seen_markTier (fun _ _ => rfl) base key tier

theorem contents_learn (base : LearntBase) (literals : Clause) (distance : Nat) :
    (base.learn literals distance).2.contents = base.contents ++ [some literals] := by
  rw [learn, contents_markTier, contents_allocate]

theorem contents_setTouched (base : LearntBase) (key : LearntKey) (conflicts : Nat) :
    (base.setTouched key conflicts).contents = base.contents :=
  seen_setTouched (fun _ _ => rfl) base key conflicts

theorem contents_attach (base : LearntBase) (key : LearntKey) :
    (base.attach key).contents = base.contents :=
  seen_attach (fun _ _ => rfl) base key

theorem contents_bumpClause (base : LearntBase) (key : LearntKey) :
    (base.bumpClause key).contents = base.contents :=
  seen_bumpClause (fun _ _ => rfl) base key

theorem contents_decayClauses (base : LearntBase) :
    base.decayClauses.contents = base.contents :=
  seen_decayClauses (fun _ _ => rfl) base

/-- What is left after a removal was there before it. -/
theorem mem_contents_of_remove {base : LearntBase} {key : LearntKey} {clause : Clause}
    (inside : some clause ∈ (base.remove key).2.contents) : some clause ∈ base.contents := by
  unfold remove at inside
  split at inside
  · exact inside
  · change some clause ∈ (base.store key none).seen LearntClause.literals at inside
    rw [seen_store] at inside
    rcases List.mem_or_eq_of_mem_set inside with before | new
    · exact before
    · exact absurd new (Option.some_ne_none clause)

theorem ranked_setTouched (base : LearntBase) (key : LearntKey) (conflicts : Nat) :
    (base.setTouched key conflicts).ranked = base.ranked :=
  seen_setTouched (fun _ _ => rfl) base key conflicts

theorem ranked_attach (base : LearntBase) (key : LearntKey) :
    (base.attach key).ranked = base.ranked :=
  seen_attach (fun _ _ => rfl) base key

theorem ranked_bumpClause (base : LearntBase) (key : LearntKey) :
    (base.bumpClause key).ranked = base.ranked :=
  seen_bumpClause (fun _ _ => rfl) base key

theorem ranked_decayClauses (base : LearntBase) : base.decayClauses.ranked = base.ranked :=
  seen_decayClauses (fun _ _ => rfl) base

/-- A clause that gets a key of its own is found under it. -/
theorem find?_allocate_self {base : LearntBase} (left : base.clauses.size < keyCount)
    (literals : Clause) (distance : Nat) :
    (base.allocate literals distance).2.find? base.nextKey = some { literals, distance } := by
  rw [nextKey_of_lt left, find?, allocate, Array.getElem?_push_size]
  rfl

/-- A clause that gets a key of its own and is put in a tier is seen behind all others, in that
tier. -/
theorem ranked_markTier_allocate {base : LearntBase} (left : base.clauses.size < keyCount)
    (literals : Clause) (distance : Nat) (tier : Tier) :
    ((base.allocate literals distance).2.markTier base.nextKey tier).ranked =
      base.ranked ++ [some (literals, tier)] := by
  have present := find?_allocate_self left literals distance
  have slots : base.ranked.length = base.clauses.size := length_seen ..
  simp only [markTier, present]
  change ((base.allocate literals distance).2.store _ _).seen _ = _
  rw [seen_store, seen_allocate, nextKey_of_lt left]
  change (base.ranked ++ [some (literals, Tier.active)]).set base.clauses.size _ = _
  rw [← slots, List.set_append_right _ _ (Nat.le_refl _), Nat.sub_self]
  rfl

end LearntBase

end ClauseSharing
