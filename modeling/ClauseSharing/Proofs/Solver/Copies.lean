import ClauseSharing.CopyCounts
import ClauseSharing.Proofs.Literal
import Mathlib.Data.List.Induction
import Mathlib.Data.Finset.Card
import Mathlib.Data.Finset.Dedup

/-! # Counting copies

The integers under which copies are counted are the same just for clauses of the same literals
(`LiteralSet.ofClause_eq_iff`). After any copies have been noted, the count of each set is the
number of its copies, up to the cap (`CopyCounts.counts_noteAll`), and that is what the next copy
announces, but for the first one (`CopyCounts.fst_note_noteAll`). -/

namespace ClauseSharing

namespace LiteralSet

theorem toInt_mem_ofClause {clause : Clause} {literal : Literal} :
    literal.toInt ∈ (ofClause clause).ints ↔ literal ∈ clause := by
  rw [mem_ofClause]
  constructor
  · rintro ⟨other, inside, same⟩
    rwa [← Literal.toInt_injective same]
  · exact fun inside => ⟨literal, inside, rfl⟩

/-- Clauses are copies of each other just if they have the same literals. -/
theorem ofClause_eq_iff {one other : Clause} :
    ofClause one = ofClause other ↔ one.toFinset = other.toFinset := by
  constructor
  · intro same
    ext literal
    rw [List.mem_toFinset, List.mem_toFinset, ← toInt_mem_ofClause, same, toInt_mem_ofClause]
  · intro same
    have members : ∀ int, int ∈ (ofClause one).ints ↔ int ∈ (ofClause other).ints := by
      intro int
      rw [mem_ofClause, mem_ofClause]
      simp only [← List.mem_toFinset, same]
    have perm : (ofClause one).ints.Perm (ofClause other).ints :=
      (List.perm_ext_iff_of_nodup (pairwise_ofClause one).nodup (pairwise_ofClause other).nodup).mpr
        members
    apply LiteralSet.ext
    apply List.Perm.eq_of_pairwise _ (pairwise_ofClause one) (pairwise_ofClause other) perm
    intro left right _ _ below above
    exact absurd below (Int.lt_asymm above)

/-- A set is there as often as clauses with its literals. -/
theorem count_map_ofClause (clauses : List Clause) (clause : Clause) :
    (clauses.map ofClause).count (ofClause clause) =
      (clauses.map List.toFinset).count clause.toFinset := by
  rw [List.count, List.count, List.countP_map, List.countP_map]
  apply List.countP_congr
  intro other _
  simp only [Function.comp_apply, beq_iff_eq]
  exact ofClause_eq_iff

end LiteralSet

namespace CopyCounts

/-- The counts after one more copy of each of these sets has been noted. -/
def noteAll (copies : CopyCounts) (keys : List LiteralSet) : CopyCounts :=
  keys.foldl (fun copies key => (copies.note key).2) copies

theorem noteAll_append (copies : CopyCounts) (front rest : List LiteralSet) :
    copies.noteAll (front ++ rest) = (copies.noteAll front).noteAll rest :=
  List.foldl_append

theorem cap_note (copies : CopyCounts) (key : LiteralSet) :
    (copies.note key).2.cap = copies.cap := by
  unfold note
  cases copies.counts[key.ints]? <;> rfl

theorem cap_noteAll (copies : CopyCounts) (keys : List LiteralSet) :
    (copies.noteAll keys).cap = copies.cap := by
  induction keys generalizing copies with
  | nil => rfl
  | cons key keys ih => exact (ih _).trans (copies.cap_note key)

/-- What so many copies are counted as. -/
def capped (cap copies : Nat) : Option Nat := if copies = 0 then none else some (min copies cap)

section

variable {copies : CopyCounts} {key : LiteralSet} {noted : Nat}
  (counted : copies.counts[key.ints]? = capped copies.cap noted)

include counted

theorem fst_note : (copies.note key).1 = if noted = 0 then 0 else min (noted + 1) copies.cap := by
  by_cases first : noted = 0
  · rw [capped, if_pos first] at counted
    rw [note, counted, if_pos first]
  · rw [capped, if_neg first] at counted
    rw [note, counted, if_neg first]
    dsimp only
    split <;> omega

theorem counts_note (positive : 0 < copies.cap) :
    (copies.note key).2.counts = copies.counts.insert key.ints (min (noted + 1) copies.cap) := by
  by_cases first : noted = 0
  · rw [capped, if_pos first] at counted
    have one : min (noted + 1) copies.cap = 1 := by omega
    rw [note, counted, one]
  · rw [capped, if_neg first] at counted
    have now : (if min noted copies.cap < copies.cap then min noted copies.cap + 1
        else min noted copies.cap) = min (noted + 1) copies.cap := by
      split <;> omega
    rw [note, counted, ← now]

end

theorem cap_starting (minCopies : Nat) :
    (starting minCopies).cap = min (minCopies + 1) greatestCount :=
  rfl

/-- The count of a set is the number of its copies that have been noted, up to the cap. -/
theorem counts_noteAll (minCopies : Nat) (keys : List LiteralSet) (key : LiteralSet) :
    ((starting minCopies).noteAll keys).counts[key.ints]? =
      capped (starting minCopies).cap (keys.count key) := by
  induction keys using List.reverseRecOn generalizing key with
  | nil => exact Std.ExtTreeMap.getElem?_empty
  | append_singleton front noted ih =>
    have cap : ((starting minCopies).noteAll front).cap = (starting minCopies).cap := cap_noteAll ..
    have positive : 0 < ((starting minCopies).noteAll front).cap := by
      rw [cap, cap_starting, greatestCount]
      omega
    have counted := ih noted
    rw [← cap] at counted
    rw [noteAll_append]
    change (((starting minCopies).noteAll front).note noted).2.counts[key.ints]? = _
    rw [counts_note counted positive, Std.ExtTreeMap.getElem?_insert, List.count_append,
      List.count_singleton, cap]
    by_cases same : noted = key
    · subst same
      simp [capped]
    · have differs : noted.ints ≠ key.ints := fun equal => same (LiteralSet.ext equal)
      simp [same, differs, ih key]

/-- What a copy announces is the number of copies with this one, up to the cap, but nothing where it
is the first. -/
theorem fst_note_noteAll (minCopies : Nat) (keys : List LiteralSet) (key : LiteralSet) :
    (((starting minCopies).noteAll keys).note key).1 =
      if keys.count key = 0 then 0 else min (keys.count key + 1) (starting minCopies).cap := by
  have cap : ((starting minCopies).noteAll keys).cap = (starting minCopies).cap := cap_noteAll ..
  have counted := counts_noteAll minCopies keys key
  rw [← cap] at counted
  rw [fst_note counted, cap]

end CopyCounts

end ClauseSharing
