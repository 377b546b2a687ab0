import ClauseSharing.Clause
import ClauseSharing.Rising

/-! # Copies of clauses

A clause that several solvers have learnt is likely useful, so copies are counted. Two clauses are
copies of each other when they have the same literals, in whatever order and however often. -/

namespace ClauseSharing

/-- A set of literals, as their wire integers in rising order. -/
@[ext]
structure LiteralSet where
  /-- The wire integers of the literals, rising. -/
  ints : List Int
deriving DecidableEq

namespace LiteralSet

/-- Drops each integer that equals the one behind it. -/
def dropRepeats : List Int → List Int
  | [] => []
  | [int] => [int]
  | first :: second :: rest =>
    if first = second then dropRepeats (second :: rest) else first :: dropRepeats (second :: rest)

/-- The literals of a clause: its wire integers are sorted, and then no repeat is left beside
another. -/
def ofClause (clause : Clause) : LiteralSet :=
  ⟨dropRepeats (sortRising id (clause.map Literal.toInt))⟩

theorem mem_dropRepeats {int : Int} {ints : List Int} : int ∈ dropRepeats ints ↔ int ∈ ints := by
  induction ints using dropRepeats.induct with
  | case1 => rfl
  | case2 only => rfl
  | case3 second rest ih =>
    rw [dropRepeats, if_pos rfl, ih]
    simp only [List.mem_cons, or_self_left]
  | case4 first second rest apart ih =>
    rw [dropRepeats, if_neg apart, List.mem_cons, ih]
    exact List.mem_cons.symm

/-- Where integers do not fall, they rise when the repeats beside each other are dropped. -/
theorem pairwise_dropRepeats {ints : List Int} (sorted : ints.Pairwise (· ≤ ·)) :
    (dropRepeats ints).Pairwise (· < ·) := by
  induction ints using dropRepeats.induct with
  | case1 => exact .nil
  | case2 only => exact List.pairwise_singleton ..
  | case3 second rest ih =>
    rw [dropRepeats, if_pos rfl]
    exact ih (List.pairwise_cons.mp sorted).2
  | case4 first second rest apart ih =>
    obtain ⟨least, others⟩ := List.pairwise_cons.mp sorted
    rw [dropRepeats, if_neg apart]
    refine List.pairwise_cons.mpr ⟨fun other inside => ?_, ih others⟩
    -- The next integer is another one, and none behind it is less.
    have next : first < second :=
      Int.lt_iff_le_and_ne.mpr ⟨least second List.mem_cons_self, apart⟩
    rcases List.mem_cons.mp (mem_dropRepeats.mp inside) with rfl | behind
    · exact next
    · exact Int.lt_of_lt_of_le next ((List.pairwise_cons.mp others).1 other behind)

/-- The integers of a set are those of the literals of its clause. -/
theorem mem_ofClause {clause : Clause} {int : Int} :
    int ∈ (ofClause clause).ints ↔ ∃ literal ∈ clause, literal.toInt = int := by
  rw [ofClause, mem_dropRepeats, (sortRising_perm ..).mem_iff, List.mem_map]

/-- The integers of a set rise, and none is repeated. -/
theorem pairwise_ofClause (clause : Clause) : (ofClause clause).ints.Pairwise (· < ·) :=
  pairwise_dropRepeats (pairwise_sortRising id _)

end LiteralSet

/-- How many copies of each clause have been seen, up to a cap. -/
structure CopyCounts where
  /-- The count of each set of literals that has been seen. -/
  counts : Std.ExtTreeMap (List Int) Nat := ∅
  /-- Counts stop here. -/
  cap : Nat

namespace CopyCounts

/-- The greatest number that a count may have. -/
def greatestCount : Nat := 4294967295

/-- No copies yet. Counts stop one past the number of copies that lifts a clause to the second
tier, since that count lifts it to the core. -/
def starting (minCopies : Nat) : CopyCounts :=
  { cap := min (minCopies + 1) greatestCount }

/-- The number of copies seen, as far as they are counted. -/
def count (copies : CopyCounts) (key : LiteralSet) : Nat :=
  copies.counts.getD key.ints 0

/-- The number of different clauses seen. -/
def distinct (copies : CopyCounts) : Nat := copies.counts.size

/-- Whether no clause has been seen. -/
def isEmpty (copies : CopyCounts) : Bool := copies.counts.isEmpty

/-- Notes one more copy and returns the number of copies seen. The first copy of a clause is
counted, but is announced as zero. -/
def note (copies : CopyCounts) (key : LiteralSet) : Nat × CopyCounts :=
  match copies.counts[key.ints]? with
  | none => (0, { copies with counts := copies.counts.insert key.ints 1 })
  | some seen =>
    let now := if seen < copies.cap then seen + 1 else seen
    (now, { copies with counts := copies.counts.insert key.ints now })

end CopyCounts

end ClauseSharing
