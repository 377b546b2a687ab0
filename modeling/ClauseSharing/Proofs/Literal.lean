import ClauseSharing.Clause
import ClauseSharing.Number.Ranged
import ClauseSharing.Record
import Mathlib.Data.List.Sort
import Mathlib.Order.Defs.Unbundled

/-! # Literals, their wire integers and their order

The wire integers of literals are the integers of magnitude 1 to 2^32, one for each literal
(`Record.readLiteral_eq_ok_iff`, `Record.readLiteral_eq_error_iff`). The order of literals is the
one of these magnitudes, where of two equal ones the negative integer comes first
(`Literal.lt_iff_toInt`). Sorted by it, the literals of each atom stand together
(`Clause.exists_sorted_eq`), which sorting the integers does not achieve: the integers of a sorted
clause rise only as far as no negative literal comes behind another one
(`Clause.rising_sorted_iff`). -/

namespace ClauseSharing

namespace Literal

theorem negate_ne (literal : Literal) : literal.negate ≠ literal := by
  intro same
  have polarity : (!literal.positive) = literal.positive := congrArg Literal.positive same
  exact Bool.not_ne_self _ polarity

theorem toInt_injective : Function.Injective toInt := by
  intro one other same
  have read := ofInt?_toInt one
  rw [same, ofInt?_toInt other] at read
  exact (Option.some.inj read).symm

theorem toInt_pos_iff {literal : Literal} : 0 < literal.toInt ↔ literal.positive = true := by
  rw [toInt]
  split
  · rename_i positive
    exact iff_of_true (by omega) positive
  · rename_i negative
    exact iff_of_false (by omega) negative

theorem toInt_neg_iff {literal : Literal} : literal.toInt < 0 ↔ literal.positive = false := by
  rw [← Bool.not_eq_true, ← toInt_pos_iff]
  have magnitude := natAbs_toInt literal
  omega

/-- Neither the magnitude of a wire integer nor the integer outgrows sixty-four bits. -/
theorem exists_long_toInt (literal : Literal) : ∃ magnitude wire : Long,
    magnitude.val = literal.atom.toNat + 1 ∧ wire.val = literal.toInt := by
  have bound := literal.atom.toNat_lt
  have magnitude := natAbs_toInt literal
  exact ⟨⟨literal.atom.toNat + 1, by omega, by omega⟩,
    ⟨literal.toInt, by omega, by omega⟩, rfl, rfl⟩

variable {left right : Literal}

/-- Literals are ordered by atom, and those of one atom with the negative one first. -/
theorem lt_iff : left < right ↔
    left.atom < right.atom ∨ left.atom = right.atom ∧ left.positive = false ∧
    right.positive = true := by
  have polarity (one other : Bool) : compare one other = .lt ↔ one = false ∧ other = true := by
    cases one <;> cases other <;> decide
  change (compare left.atom right.atom).then (compare left.positive right.positive) = .lt ↔ _
  rw [Ordering.then_eq_lt, Std.compare_eq_lt, Std.compare_eq_iff_eq, polarity]

/-- **Literals are ordered by the magnitudes of their integers**, and those of one magnitude with
the negative one first. -/
theorem lt_iff_toInt : left < right ↔
    left.toInt.natAbs < right.toInt.natAbs ∨
      left.toInt.natAbs = right.toInt.natAbs ∧ left.toInt < 0 ∧ 0 < right.toInt := by
  rw [lt_iff, natAbs_toInt, natAbs_toInt, toInt_neg_iff, toInt_pos_iff, Nat.add_lt_add_iff_right,
    Nat.add_right_cancel_iff, UInt32.lt_iff_toNat_lt, ← UInt32.toNat_inj]

/-- Of two literals the greater one has the greater integer just if it is positive. -/
theorem toInt_le_iff (below : left < right) : left.toInt ≤ right.toInt ↔ right.positive = true := by
  rw [lt_iff_toInt] at below
  rw [← toInt_pos_iff]
  have nonzero := natAbs_toInt right
  omega

/-- The order of literals is a strict total order. -/
theorem strictTotalOrder_lt : IsStrictTotalOrder Literal (· < ·) where
  irrefl literal := by
    rw [lt_iff_toInt]
    omega
  trans one two three := by
    simp only [lt_iff_toInt]
    omega
  trichotomous one other notBelow notAbove := by
    rw [lt_iff_toInt] at notBelow notAbove
    have nonzero := natAbs_toInt one
    exact toInt_injective (by omega)

theorem le_iff_not_lt : left ≤ right ↔ ¬right < left := by
  change compare left right ≠ .gt ↔ ¬compare right left = .lt
  rw [Std.OrientedOrd.eq_swap (a := left), ne_eq, Ordering.swap_eq_gt]

theorem le_iff_toInt : left ≤ right ↔
    left.toInt.natAbs < right.toInt.natAbs ∨
      left.toInt.natAbs = right.toInt.natAbs ∧ (left.toInt < 0 ∨ 0 < right.toInt) := by
  have first := natAbs_toInt left
  have second := natAbs_toInt right
  rw [le_iff_not_lt, lt_iff_toInt]
  omega

instance : Std.Total (α := Literal) (· ≤ ·) where
  total one other := by
    rw [le_iff_toInt, le_iff_toInt]
    have first := natAbs_toInt one
    omega

instance : IsTrans Literal (· ≤ ·) where
  trans one two three := by
    simp only [le_iff_toInt]
    omega

theorem atom_le_of_le (below : left ≤ right) : left.atom ≤ right.atom := by
  rw [le_iff_not_lt, lt_iff, not_or, UInt32.not_lt] at below
  exact below.1

/-- A literal is of a lower atom, one of the two of the atom, or of a higher atom. -/
theorem cases_of_atom (literal : Literal) (atom : Atom) :
    literal.atom < atom ∨ literal = ⟨atom, false⟩ ∨ literal = ⟨atom, true⟩ ∨
    atom < literal.atom := by
  rw [Literal.ext_iff, Literal.ext_iff, ← UInt32.toNat_inj, UInt32.lt_iff_toNat_lt,
    UInt32.lt_iff_toNat_lt]
  cases literal.positive <;> simp only [and_true, and_false, reduceCtorEq, false_or] <;> omega

theorem ne_of_atom_ne {literal : Literal} {atom : Atom}
    (apart : literal.atom ≠ atom) (positive : Bool) :
    literal ≠ ⟨atom, positive⟩ := fun same => apart (congrArg Literal.atom same)

theorem eq_of_le_of_le (below : left ≤ right) (above : right ≤ left) : left = right := by
  rw [le_iff_toInt] at below above
  have nonzero := natAbs_toInt left
  exact toInt_injective (by omega)

end Literal

namespace Clause

/-- The literals of a clause in their order. -/
def sorted (clause : Clause) : Clause := clause.mergeSort (· ≤ ·)

theorem pairwise_sorted (clause : Clause) : clause.sorted.Pairwise (· ≤ ·) :=
  List.pairwise_mergeSort' (· ≤ ·) clause

theorem sorted_perm (clause : Clause) : clause.sorted.Perm clause := List.mergeSort_perm clause _

/-- No other list of the same literals is sorted. -/
theorem eq_sorted_iff {clause literals : Clause} :
    literals = clause.sorted ↔ literals.Perm clause ∧ literals.Pairwise (· ≤ ·) := by
  constructor
  · rintro rfl
    exact ⟨sorted_perm clause, pairwise_sorted clause⟩
  · rintro ⟨perm, rising⟩
    exact (perm.trans (sorted_perm clause).symm).eq_of_pairwise
      (fun _ _ _ _ => Literal.eq_of_le_of_le) rising (pairwise_sorted clause)

/-- A literal below the first of rising ones is none of them. -/
theorem count_eq_zero_of_lt {first literal : Literal} {rest : Clause}
    (least : ∀ other ∈ rest, first ≤ other) (below : literal < first) : rest.count literal = 0 :=
  List.count_eq_zero.mpr fun inside => Literal.le_iff_not_lt.mp (least literal inside) below

/-- Rising literals of one atom stand together, the negative ones first. -/
theorem exists_eq_of_pairwise {literals : Clause}
    (rising : literals.Pairwise (· ≤ ·)) (atom : Atom) :
    ∃ below above : Clause,
      literals = below ++ List.replicate (literals.count ⟨atom, false⟩) ⟨atom, false⟩ ++
          List.replicate (literals.count ⟨atom, true⟩) ⟨atom, true⟩ ++ above ∧
        (∀ literal ∈ below, literal.atom < atom) ∧ ∀ literal ∈ above, atom < literal.atom := by
  induction rising with
  | nil => exact ⟨[], [], rfl, List.forall_mem_nil _, List.forall_mem_nil _⟩
  | @cons first rest least _ ih =>
    obtain ⟨below, above, split, lower, higher⟩ := ih
    -- Behind a literal that is not below the atom there is none that is.
    have nothing (notUnder : ¬first.atom < atom) : below = [] :=
      List.eq_nil_iff_forall_not_mem.mpr fun literal inside => by
        have behind : literal ∈ rest := by
          rw [split]
          simp only [List.mem_append, inside, true_or]
        have reached := Literal.atom_le_of_le (least literal behind)
        exact notUnder (UInt32.lt_of_le_of_lt reached (lower literal inside))
    rcases first.cases_of_atom atom with under | rfl | rfl | beyond
    · have other := Literal.ne_of_atom_ne (UInt32.ne_of_lt under)
      refine ⟨first :: below, above, ?_, List.forall_mem_cons.mpr ⟨under, lower⟩, higher⟩
      rw [List.count_cons_of_ne (other false), List.count_cons_of_ne (other true), List.cons_append,
        List.cons_append, List.cons_append, ← split]
    · rw [nothing (UInt32.lt_irrefl _), List.nil_append] at split
      refine ⟨[], above, ?_, List.forall_mem_nil _, higher⟩
      rw [List.count_cons_self, List.count_cons_of_ne (by simp),
        List.replicate_succ, List.nil_append, List.cons_append, List.cons_append, ← split]
    · have absent : rest.count ⟨atom, false⟩ = 0 :=
        count_eq_zero_of_lt least (Literal.lt_iff.mpr (.inr ⟨rfl, rfl, rfl⟩))
      rw [nothing (UInt32.lt_irrefl _), absent, List.replicate_zero, List.nil_append,
        List.nil_append] at split
      refine ⟨[], above, ?_, List.forall_mem_nil _, higher⟩
      rw [List.count_cons_self, List.count_cons_of_ne (by simp), absent, List.replicate_zero,
        List.replicate_succ, List.nil_append, List.nil_append, List.cons_append, ← split]
    · have absent (positive : Bool) : rest.count ⟨atom, positive⟩ = 0 :=
        count_eq_zero_of_lt least (Literal.lt_iff.mpr (.inl beyond))
      have other := Literal.ne_of_atom_ne (UInt32.ne_of_lt beyond).symm
      rw [nothing (UInt32.lt_asymm beyond), absent, absent] at split
      refine ⟨[], first :: above, ?_, List.forall_mem_nil _,
        List.forall_mem_cons.mpr ⟨beyond, higher⟩⟩
      rw [List.count_cons_of_ne (other false), List.count_cons_of_ne (other true), absent, absent]
      exact congrArg (first :: ·) split

/-- **Sorted literals of one atom stand together**, the negative ones first. -/
theorem exists_sorted_eq (clause : Clause) (atom : Atom) : ∃ below above : Clause,
    clause.sorted = below ++ List.replicate (clause.count ⟨atom, false⟩) ⟨atom, false⟩ ++
        List.replicate (clause.count ⟨atom, true⟩) ⟨atom, true⟩ ++ above ∧
      (∀ literal ∈ below, literal.atom < atom) ∧ ∀ literal ∈ above, atom < literal.atom := by
  rw [← (sorted_perm clause).count_eq, ← (sorted_perm clause).count_eq]
  exact exists_eq_of_pairwise (pairwise_sorted clause) atom

/-- The integers of a sorted clause rise just if no negative literal has another one below it. -/
theorem rising_sorted_iff (clause : Clause) :
    (clause.sorted.map Literal.toInt).Pairwise (· ≤ ·) ↔
      ∀ left ∈ clause, ∀ right ∈ clause, left < right → right.positive = true := by
  have members (literal : Literal) : literal ∈ clause.sorted ↔ literal ∈ clause :=
    (sorted_perm clause).mem_iff
  simp only [← members]
  rw [List.pairwise_map]
  constructor
  · intro rising left inside right also below
    have order := pairwise_sorted clause
    obtain ⟨front, back, split⟩ := List.append_of_mem also
    rw [split] at rising order inside
    -- The lower literal cannot stand behind the greater one.
    have before : left ∈ front := by
      rcases List.mem_append.mp inside with before | behind
      · exact before
      · have above : right ≤ left := by
          rcases List.mem_cons.mp behind with rfl | behind
          · exact Literal.le_iff_not_lt.mpr (Literal.strictTotalOrder_lt.irrefl left)
          · exact List.rel_of_pairwise_cons (List.pairwise_append.mp order).2.1 behind
        exact absurd below (Literal.le_iff_not_lt.mp above)
    have ints := (List.pairwise_append.mp rising).2.2 left before right (List.mem_cons_self ..)
    exact (Literal.toInt_le_iff below).mp ints
  · intro positive
    refine (pairwise_sorted clause).imp_of_mem ?_
    intro one other inside also order
    by_cases less : one < other
    · exact (Literal.toInt_le_iff less).mpr (positive one inside other also less)
    · exact (Literal.eq_of_le_of_le order (Literal.le_iff_not_lt.mpr less)) ▸ Int.le_refl _

end Clause

namespace Record

/-- A literal is read from its own integer and from no other. -/
theorem readLiteral_eq_ok_iff {int : Int} {literal : Literal} :
    readLiteral int = .ok literal ↔ literal.toInt = int := by
  rw [readLiteral]
  constructor
  · intro read
    split at read
    · rename_i found
      exact Except.ok.inj read ▸ Literal.toInt_of_ofInt? found
    · cases read
  · rintro rfl
    rw [Literal.ofInt?_toInt]

/-- An integer is refused, and itself told, just if its magnitude is none of a literal. -/
theorem readLiteral_eq_error_iff {int : Int} {reason : ReadError} :
    readLiteral int = .error reason ↔
      reason = .notLiteral int ∧ (int = 0 ∨ 4294967296 < int.natAbs) := by
  have refused : Literal.ofInt? int = none ↔ int = 0 ∨ 4294967296 < int.natAbs := by
    rw [Literal.ofInt?, Literal.maxMagnitude, ite_eq_right_iff]
    simp only [reduceCtorEq, imp_false]
    omega
  rw [← refused, readLiteral]
  cases Literal.ofInt? int with
  | some literal => simp only [reduceCtorEq, and_false]
  | none => simp only [Except.error.injEq, and_true, eq_comm]

end Record

/-- **Wire integers and literals correspond one to one.** An integer is read as the literal whose
wire integer it is, and refused, being told, just if it is zero or of a magnitude above 2^32.
Neither the wire integer of any literal nor its magnitude outgrows sixty-four bits. Negating a
literal negates its integer, gives another literal, and twice the literal itself. The order of
literals is a strict total order that goes by magnitude, with the negative one of two literals of
one magnitude first. So a clause has one sorted list of its literals, in which those of any one atom
stand together, the negative ones first, and whose integers need not rise: they do just if no
negative literal has another one below it. -/
theorem Literal.corresponds_to_wire :
    (∀ (int : Int) (literal : Literal), Record.readLiteral int = .ok literal ↔
      literal.toInt = int) ∧
    (∀ (int : Int) (reason : Record.ReadError), Record.readLiteral int = .error reason ↔
      reason = .notLiteral int ∧ (int = 0 ∨ 4294967296 < int.natAbs)) ∧
    (∀ literal : Literal, ∃ magnitude wire : Long,
      magnitude.val = literal.atom.toNat + 1 ∧ wire.val = literal.toInt) ∧
    (∀ literal : Literal, literal.negate.toInt = -literal.toInt ∧ literal.negate ≠ literal ∧
      literal.negate.negate = literal) ∧
    IsStrictTotalOrder Literal (· < ·) ∧
    (∀ left right : Literal, (compare left right = .eq ↔ left = right) ∧
      (compare left right = .lt ↔ left < right) ∧ (compare left right = .gt ↔ right < left) ∧
      (left < right ↔ left.toInt.natAbs < right.toInt.natAbs ∨
        left.toInt.natAbs = right.toInt.natAbs ∧ left.toInt < 0 ∧ 0 < right.toInt)) ∧
    (∀ clause literals : Clause,
      literals = clause.sorted ↔ literals.Perm clause ∧ literals.Pairwise (· ≤ ·)) ∧
    (∀ (clause : Clause) (atom : Atom), ∃ below above : Clause,
      clause.sorted = below ++ List.replicate (clause.count ⟨atom, false⟩) ⟨atom, false⟩ ++
          List.replicate (clause.count ⟨atom, true⟩) ⟨atom, true⟩ ++ above ∧
        (∀ literal ∈ below, literal.atom < atom) ∧ ∀ literal ∈ above, atom < literal.atom) ∧
    (∀ clause : Clause, (clause.sorted.map Literal.toInt).Pairwise (· ≤ ·) ↔
      ∀ left ∈ clause, ∀ right ∈ clause, left < right → right.positive = true) ∧
    ∃ clause : Clause, ¬(clause.sorted.map Literal.toInt).Pairwise (· ≤ ·) := by
  refine ⟨fun _ _ => Record.readLiteral_eq_ok_iff, fun _ _ => Record.readLiteral_eq_error_iff,
    exists_long_toInt, fun literal =>
      ⟨toInt_negate literal, negate_ne literal, negate_negate literal⟩,
    strictTotalOrder_lt, fun left right => ⟨Std.compare_eq_iff_eq, Iff.rfl, ?_, lt_iff_toInt⟩,
    fun _ _ => Clause.eq_sorted_iff, Clause.exists_sorted_eq, Clause.rising_sorted_iff, ?_⟩
  · exact Std.OrientedCmp.gt_iff_lt
  · refine ⟨[⟨0, true⟩, ⟨1, false⟩], fun rising => ?_⟩
    have positive :=
      (Clause.rising_sorted_iff _).mp rising ⟨0, true⟩ (by decide) ⟨1, false⟩ (by decide)
    exact absurd (positive (by decide)) (by decide)

example : Record.readLiteral (-9223372036854775808) = .error
    (.notLiteral (-9223372036854775808)) := by
  decide

end ClauseSharing
