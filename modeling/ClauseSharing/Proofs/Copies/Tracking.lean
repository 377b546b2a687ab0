import ClauseSharing.Proofs.Solver.Copies
import Mathlib.Data.Finset.Card

/-! # What a run of noted copies comes to

Copies of clauses are noted one after the other, in whatever order. What is counted for a clause,
and what each of its copies announces, depends on how often its literals were noted before and on
nothing else (`CopyCounts.announcedFor_starting`), and as many clauses are known as sets of literals
were noted (`CopyCounts.size_noteAll`). All of this is `CopyCounts.counted_exactly`. -/

namespace ClauseSharing

namespace CopyCounts

/-- Each of these sets with the number that its copy announces, noted one after the other. -/
def announced (copies : CopyCounts) : List LiteralSet → List (LiteralSet × Nat)
  | [] => []
  | key :: keys => (key, (copies.note key).1) :: announced (copies.note key).2 keys

/-- What the copies of one of these sets announce, in order. -/
def announcedFor (copies : CopyCounts) (keys : List LiteralSet) (key : LiteralSet) : List Nat :=
  ((copies.announced keys).filter fun entry => entry.1 = key).map Prod.snd

theorem announced_append (copies : CopyCounts) (front rest : List LiteralSet) :
    copies.announced (front ++ rest) =
      copies.announced front ++ (copies.noteAll front).announced rest := by
  induction front generalizing copies with
  | nil => rfl
  | cons key front ih =>
    rw [List.cons_append, announced, ih, announced, List.cons_append]
    rfl

/-- One more copy adds what it announces to what was announced for its set. -/
theorem announcedFor_concat (copies : CopyCounts) (front : List LiteralSet)
    (noted key : LiteralSet) :
    copies.announcedFor (front ++ [noted]) key =
      copies.announcedFor front key ++
        if noted = key then [((copies.noteAll front).note noted).1] else [] := by
  rw [announcedFor, announced_append, List.filter_append, List.map_append]
  refine congrArg (copies.announcedFor front key ++ ·) ?_
  rw [announced, announced, List.filter_singleton]
  by_cases same : noted = key
  · rw [if_pos same, decide_eq_true same]
    rfl
  · rw [if_neg same, decide_eq_false same]
    rfl

/-- The copies of a set announce nothing the first time, and then how many there have been, up to
the cap. -/
theorem announcedFor_starting (minCopies : Nat) (keys : List LiteralSet) (key : LiteralSet) :
    (starting minCopies).announcedFor keys key = (List.range (keys.count key)).map fun earlier =>
      if earlier = 0 then 0 else min (earlier + 1) (starting minCopies).cap := by
  induction keys using List.reverseRecOn with
  | nil => rfl
  | append_singleton front noted ih =>
    rw [announcedFor_concat, ih, List.count_append, List.count_singleton]
    by_cases same : noted = key
    · rw [if_pos same, if_pos (beq_iff_eq.mpr same), List.range_succ,
        List.map_append, List.map_singleton, same, fst_note_noteAll]
    · rw [if_neg same, if_neg (mt beq_iff_eq.mp same), List.append_nil, Nat.add_zero]

/-- The count of a set is the number of its copies, up to the cap. -/
theorem count_noteAll (minCopies : Nat) (keys : List LiteralSet) (key : LiteralSet) :
    ((starting minCopies).noteAll keys).count key = min (keys.count key)
      (starting minCopies).cap := by
  rw [count, Std.ExtTreeMap.getD_eq_getD_getElem?, counts_noteAll, capped]
  split
  · rename_i none
    rw [none, Nat.zero_min]
    rfl
  · rfl

/-- A set is known just if a copy of it has been noted. -/
theorem contains_noteAll (minCopies : Nat) (keys : List LiteralSet) (key : LiteralSet) :
    ((starting minCopies).noteAll keys).counts.contains key.ints = decide (key ∈ keys) := by
  rw [Std.ExtTreeMap.contains_eq_isSome_getElem?, counts_noteAll, capped]
  by_cases inside : key ∈ keys
  · rw [decide_eq_true inside, if_neg (Nat.ne_of_gt (List.count_pos_iff.mpr inside))]
    rfl
  · rw [decide_eq_false inside, if_pos (List.count_eq_zero.mpr inside)]
    rfl

/-- Noting a copy makes its set known, and no other. -/
theorem size_note (copies : CopyCounts) (key : LiteralSet) :
    (copies.note key).2.counts.size =
      if copies.counts.contains key.ints then copies.counts.size else copies.counts.size + 1 := by
  rw [note]
  split <;> rw [Std.ExtTreeMap.size_insert]

/-- As many sets are known as different ones have been noted. -/
theorem size_noteAll (minCopies : Nat) (keys : List LiteralSet) :
    ((starting minCopies).noteAll keys).counts.size = keys.toFinset.card := by
  induction keys using List.reverseRecOn with
  | nil => rfl
  | append_singleton front noted ih =>
    have grown : (front ++ [noted]).toFinset = insert noted front.toFinset := by
      ext key
      rw [List.mem_toFinset, List.mem_append, List.mem_singleton,
        Finset.mem_insert, List.mem_toFinset, or_comm]
    rw [noteAll_append, grown]
    refine (size_note _ noted).trans ?_
    rw [contains_noteAll, ih]
    by_cases known : noted ∈ front
    · rw [if_pos (decide_eq_true known), Finset.insert_eq_of_mem (List.mem_toFinset.mpr known)]
    · rw [if_neg (mt of_decide_eq_true known),
        Finset.card_insert_of_notMem (mt List.mem_toFinset.mp known)]

/-- Whatever it is kept under, a count is no greater than the cap. -/
theorem getD_counts_noteAll_le (minCopies : Nat) (keys : List LiteralSet) (ints : List Int) :
    ((starting minCopies).noteAll keys).counts.getD ints 0 ≤ (starting minCopies).cap := by
  have counted : ((starting minCopies).noteAll keys).counts.getD ints 0 = _ :=
    count_noteAll minCopies keys ⟨ints⟩
  rw [counted]
  exact Nat.min_le_right ..

end CopyCounts

namespace LiteralSet

/-- As many sets are there as different collections of literals. -/
theorem card_map_ofClause (clauses : List Clause) :
    (clauses.map ofClause).toFinset.card = (clauses.map List.toFinset).toFinset.card := by
  induction clauses with
  | nil => rfl
  | cons clause clauses ih =>
    rw [List.map_cons, List.map_cons, List.toFinset_cons, List.toFinset_cons,
      Finset.card_insert_eq_ite, Finset.card_insert_eq_ite, ih]
    simp only [List.mem_toFinset, List.mem_map, ofClause_eq_iff]

end LiteralSet

/-- The copies of a clause are those among the clauses with its literals. -/
theorem Clause.count_filter_toFinset (clauses : List Clause) (clause : Clause) :
    ((clauses.filter fun other => other.toFinset = clause.toFinset).map List.toFinset).count
      clause.toFinset = (clauses.map List.toFinset).count clause.toFinset := by
  rw [List.count_eq_countP, List.countP_map, List.countP_filter,
    List.count_eq_countP, List.countP_map]
  exact List.countP_congr fun other _ => by simp

namespace CopyCounts

open LiteralSet in
/-- **Copies are counted exactly, up to a cap.** Counts stop one past the number of copies that
lifts a clause to the second tier, or at the greatest number of thirty-two bits. Whatever clauses
have been noted, in whatever order, the count of each is how many of them have its literals, up to
the cap. Of the copies of a clause the first announces nothing, and each other one how many there
have been with it, up to the cap; and what they announce is what they would announce if no other
clause had been noted. As many clauses are known as there are sets of literals among them, none only
where none was noted, and no number that is kept outgrows thirty-two bits. -/
theorem counted_exactly (minCopies : Nat) (clauses : List Clause) :
    (starting minCopies).cap = min (minCopies + 1) 4294967295 ∧
    (∀ clause : Clause,
      ((starting minCopies).noteAll (clauses.map ofClause)).count (.ofClause clause) =
        min ((clauses.map List.toFinset).count clause.toFinset) (starting minCopies).cap) ∧
    (∀ clause : Clause,
      (starting minCopies).announcedFor (clauses.map ofClause) (.ofClause clause) =
        (List.range ((clauses.map List.toFinset).count clause.toFinset)).map fun earlier =>
          if earlier = 0 then 0 else min (earlier + 1) (starting minCopies).cap) ∧
    (∀ clause : Clause,
      (starting minCopies).announcedFor (clauses.map ofClause) (.ofClause clause) =
        (starting minCopies).announcedFor
          ((clauses.filter fun other => other.toFinset = clause.toFinset).map ofClause)
          (.ofClause clause)) ∧
    ((starting minCopies).noteAll (clauses.map ofClause)).distinct =
      (clauses.map List.toFinset).toFinset.card ∧
    (((starting minCopies).noteAll (clauses.map ofClause)).isEmpty = true ↔ clauses = []) ∧
    ∀ ints : List Int,
      ((starting minCopies).noteAll (clauses.map ofClause)).counts.getD ints 0 ≤ 4294967295 := by
  refine ⟨rfl, fun clause => ?_, fun clause => ?_, fun clause => ?_, ?_, ?_, fun ints => ?_⟩
  · rw [count_noteAll, count_map_ofClause]
  · rw [announcedFor_starting, count_map_ofClause]
  · rw [announcedFor_starting, announcedFor_starting, count_map_ofClause, count_map_ofClause,
      Clause.count_filter_toFinset]
  · rw [distinct, size_noteAll, card_map_ofClause]
  · rw [isEmpty, Std.ExtTreeMap.isEmpty_eq_size_beq_zero, size_noteAll, beq_iff_eq,
      Finset.card_eq_zero, List.toFinset_eq_empty_iff, List.map_eq_nil_iff]
  · exact Nat.le_trans (getD_counts_noteAll_le minCopies _ ints) (Nat.min_le_right ..)

end CopyCounts

end ClauseSharing
