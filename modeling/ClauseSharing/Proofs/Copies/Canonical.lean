import ClauseSharing.Proofs.Solver.Copies
import Mathlib.Data.List.Destutter
import Mathlib.Data.List.Sort

/-! # The set of literals of a clause

Copies of a clause are told by the set of its literals. The set is kept as rising integers, so that
there is one form of it only, and the clause can be read back from it up to the order and the
repetition of its literals (`LiteralSet.canonical`). It does not matter in which way the integers
are brought in order: sorting them and then dropping each one that equals its neighbour comes to the
same (`LiteralSet.ints_eq_destutter`). -/

namespace ClauseSharing

namespace LiteralSet

/-- The literals that the integers of a set stand for, in the order of the integers. -/
def literals (set : LiteralSet) : Clause := set.ints.filterMap Literal.ofInt?

/-- The integers are those that are left of the sorted ones when each that equals its neighbour is
dropped. -/
theorem ints_eq_destutter (clause : Clause) :
    (ofClause clause).ints = ((clause.map Literal.toInt).mergeSort (· ≤ ·)).destutter (· ≠ ·) := by
  have sorted := List.pairwise_mergeSort' (· ≤ ·) (clause.map Literal.toInt)
  rw [sorted.destutter_eq_dedup]
  apply (pairwise_ofClause clause).eq_of_mem_iff
  · -- Of sorted integers that are not repeated each is below the next.
    have weak := sorted.sublist (List.dedup_sublist _)
    exact weak.imp₂ (fun _ _ below apart => Int.lt_iff_le_and_ne.mpr ⟨below, apart⟩)
      (List.nodup_dedup _)
  · intro int
    rw [List.mem_dedup, List.mem_mergeSort, mem_ofClause, List.mem_map]

/-- A set has as many integers as its clause has different literals. -/
theorem length_ints (clause : Clause) :
    (ofClause clause).ints.length = clause.toFinset.card := by
  have same : (ofClause clause).ints.toFinset = clause.toFinset.image Literal.toInt := by
    ext int
    rw [List.mem_toFinset, mem_ofClause, Finset.mem_image]
    simp only [List.mem_toFinset]
  rw [← List.toFinset_card_of_nodup (pairwise_ofClause clause).nodup, same,
    Finset.card_image_of_injective _ Literal.toInt_injective]

/-- Every integer of a set is the wire integer of a literal. -/
theorem map_ofInt?_ints (clause : Clause) :
    (ofClause clause).ints.map Literal.ofInt? = (ofClause clause).literals.map some := by
  have readable : ∀ int ∈ (ofClause clause).ints, (Literal.ofInt? int).isSome := by
    intro int inside
    obtain ⟨literal, -, rfl⟩ := mem_ofClause.mp inside
    rw [Literal.ofInt?_toInt]
    rfl
  rw [literals]
  generalize (ofClause clause).ints = ints at readable ⊢
  induction ints with
  | nil => rfl
  | cons int ints ih =>
    obtain ⟨first, others⟩ := List.forall_mem_cons.mp readable
    obtain ⟨literal, read⟩ := Option.isSome_iff_exists.mp first
    rw [List.map_cons, List.filterMap_cons_some read, List.map_cons, read, ih others]

theorem mem_literals {clause : Clause} {literal : Literal} :
    literal ∈ (ofClause clause).literals ↔ literal ∈ clause := by
  rw [literals, List.mem_filterMap]
  constructor
  · rintro ⟨int, inside, read⟩
    rw [← Literal.toInt_of_ofInt? read] at inside
    exact toInt_mem_ofClause.mp inside
  · exact fun inside => ⟨literal.toInt, toInt_mem_ofClause.mpr inside, Literal.ofInt?_toInt literal⟩

/-- Clauses have one set just if they have the same literals. -/
theorem ofClause_eq_iff_mem {one other : Clause} :
    ofClause one = ofClause other ↔ ∀ literal, literal ∈ one ↔ literal ∈ other := by
  rw [ofClause_eq_iff, Finset.ext_iff]
  simp only [List.mem_toFinset]

/-- **The set of a clause is a canonical form of its literals.** Two clauses have one set just if
they have the same literals, and a literal and its negation are two. The integers of a set rise.
They are the wire integers of the literals and no others, as many as there are different literals,
and what sorting and then dropping repeated neighbours leaves. All of them are read back as
literals, and the set of these is the same set again. -/
theorem canonical (one other : Clause) :
    (ofClause one = ofClause other ↔ ∀ literal, literal ∈ one ↔ literal ∈ other) ∧
    (∀ literal : Literal, literal.negate ≠ literal ∧
      ofClause [literal.negate] ≠ ofClause [literal]) ∧
    (ofClause one).ints.Pairwise (· < ·) ∧
    (∀ int, int ∈ (ofClause one).ints ↔ ∃ literal ∈ one, literal.toInt = int) ∧
    (ofClause one).ints.length = one.toFinset.card ∧
    (ofClause one).ints = ((one.map Literal.toInt).mergeSort (· ≤ ·)).destutter (· ≠ ·) ∧
    (ofClause one).ints.map Literal.ofInt? = (ofClause one).literals.map some ∧
    ofClause (ofClause one).literals = ofClause one := by
  refine ⟨ofClause_eq_iff_mem, fun literal => ⟨literal.negate_ne, fun same => ?_⟩,
    pairwise_ofClause one,
    fun _ => mem_ofClause, length_ints one, ints_eq_destutter one, map_ofInt?_ints one,
    ofClause_eq_iff_mem.mpr fun _ => mem_literals⟩
  have negated := (ofClause_eq_iff_mem.mp same literal.negate).mp (List.mem_singleton_self _)
  exact literal.negate_ne (List.mem_singleton.mp negated)

example : (ofClause [⟨6, false⟩, ⟨3, true⟩, ⟨6, false⟩, ⟨6, true⟩]).ints = [-7, 4, 7] := by decide

end LiteralSet

end ClauseSharing
