import ClauseSharing.Proofs.Meaning
import ClauseSharing.Proofs.Solver.Contents
import ClauseSharing.Solver

/-! # What a solver knows

A solver allows the truth assignments that agree with its values and under which its live learnt
clauses hold, and none at all once it is marked unsatisfiable. This depends on a small part of the
solver (`Solver.knowledge`). Only three commands of an import change it: one more literal, one more
clause, and the mark. Together they make up what it is to absorb a clause (`Knowledge.absorb`),
which allows exactly what was allowed before and what satisfies the clause
(`Knowledge.allows_absorb`). -/

namespace ClauseSharing

/-- What a solver holds to be true: the values of atoms, the clauses that it learnt, and whether
they may have a model. -/
structure Knowledge where
  assignment : Assignment
  satisfiable : Bool
  /-- The learnt clauses in order of keys, none for those removed. -/
  clauses : List (Option Clause)

namespace Assignment

theorem value?_assign (assignment : Assignment) (literal : Literal) (atom : Atom) :
    (assignment.assign literal).value? atom =
      if literal.atom = atom then some literal.positive else assignment.value? atom := by
  rw [value?, value?, assign, Std.ExtTreeMap.getElem?_insert]
  by_cases same : literal.atom = atom
  · rw [if_pos same, if_pos (by rw [same]; exact Std.ReflCmp.compare_self)]
  · rw [if_neg same, if_neg fun equal => same (Std.LawfulEqCmp.eq_of_compare equal)]

end Assignment

namespace Knowledge

/-- The value of an atom, if it has one. -/
def value? (known : Knowledge) (atom : Atom) : Option Bool := known.assignment.value? atom

/-- With one more literal that holds. -/
def assign (known : Knowledge) (literal : Literal) : Knowledge :=
  { known with assignment := known.assignment.assign literal }

/-- With one more clause. -/
def store (known : Knowledge) (clause : Clause) : Knowledge :=
  { known with clauses := known.clauses ++ [some clause] }

/-- Marked as having no model. -/
def refute (known : Knowledge) : Knowledge := { known with satisfiable := false }

/-- Takes a clause to be true: a unit gives its atom a value, and a unit against the value of its
atom leaves no model. Any other clause is stored. -/
def absorb (known : Knowledge) : Clause → Knowledge
  | [literal] =>
    match known.value? literal.atom with
    | none => known.assign literal
    | some value => if value = literal.positive then known else known.refute
  | clause => known.store clause

/-- Whether a clause is a unit against the value of its atom. -/
def Opposes (known : Knowledge) (clause : Clause) : Prop :=
  ∃ literal, clause = [literal] ∧ known.value? literal.atom = some (!literal.positive)

/-- The truth assignments that are compatible with what is known. -/
structure Allows (known : Knowledge) (truth : Truth) : Prop where
  values : ∀ atom value, known.value? atom = some value → truth atom = value
  clauses : ∀ clause, some clause ∈ known.clauses → Clause.Holds truth clause
  satisfiable : known.satisfiable = true

theorem value?_assign (known : Knowledge) (literal : Literal) (atom : Atom) :
    (known.assign literal).value? atom =
      if literal.atom = atom then some literal.positive else known.value? atom :=
  known.assignment.value?_assign literal atom

theorem opposes_singleton {known : Knowledge} {literal : Literal} :
    known.Opposes [literal] ↔ known.value? literal.atom = some (!literal.positive) := by
  constructor
  · rintro ⟨other, same, against⟩
    rw [List.singleton_inj.mp same]
    exact against
  · exact fun against => ⟨literal, rfl, against⟩

theorem not_opposes_of_length {known : Knowledge} {clause : Clause} (plural : clause.length ≠ 1) :
    ¬known.Opposes clause := by
  rintro ⟨literal, rfl, -⟩
  exact plural rfl

theorem absorb_of_length {known : Knowledge} {clause : Clause} (plural : clause.length ≠ 1) :
    known.absorb clause = known.store clause := by
  match clause, plural with
  | [], _ => rfl
  | _ :: _ :: _, _ => rfl

theorem absorb_of_none {known : Knowledge} {literal : Literal}
    (free : known.value? literal.atom = none) :
    known.absorb [literal] = known.assign literal := by
  simp only [absorb, free]

theorem absorb_of_same {known : Knowledge} {literal : Literal}
    (same : known.value? literal.atom = some literal.positive) :
    known.absorb [literal] = known := by
  simp only [absorb, same, ↓reduceIte]

theorem absorb_of_opposes {known : Knowledge} {clause : Clause} (opposes : known.Opposes clause) :
    known.absorb clause = known.refute := by
  obtain ⟨literal, rfl, against⟩ := opposes
  simp only [absorb, against, Bool.not_eq_self, ↓reduceIte]

/-- What a clause can meet: it has another length than one, its atom has no value, it holds already,
or it is opposed to what is known. -/
theorem absorb_cases (known : Knowledge) (clause : Clause) :
    clause.length ≠ 1 ∨ (∃ literal, clause = [literal] ∧ known.value? literal.atom = none) ∨
      (∃ literal, clause = [literal] ∧ known.value? literal.atom = some literal.positive) ∨
        known.Opposes clause := by
  by_cases single : clause.length = 1
  · obtain ⟨literal, rfl⟩ := List.length_eq_one_iff.mp single
    cases found : known.value? literal.atom with
    | none => exact .inr (.inl ⟨literal, rfl, found⟩)
    | some value =>
      by_cases same : value = literal.positive
      · exact .inr (.inr (.inl ⟨literal, rfl, by rw [found, same]⟩))
      · exact .inr (.inr (.inr ⟨literal, rfl, by rw [found, Bool.eq_not_of_ne same]⟩))
  · exact .inl single

theorem satisfiable_absorb {known : Knowledge} {clause : Clause}
    (unopposed : ¬known.Opposes clause) :
    (known.absorb clause).satisfiable = known.satisfiable := by
  rcases known.absorb_cases clause with
    plural | ⟨literal, rfl, free⟩ | ⟨literal, rfl, same⟩ | against
  · rw [absorb_of_length plural]
    rfl
  · rw [absorb_of_none free]
    rfl
  · rw [absorb_of_same same]
  · exact absurd against unopposed

theorem allows_store {known : Knowledge} {clause : Clause} {truth : Truth} :
    (known.store clause).Allows truth ↔ known.Allows truth ∧ Clause.Holds truth clause := by
  constructor
  · intro allows
    refine ⟨⟨allows.values, fun other inside => ?_, allows.satisfiable⟩, ?_⟩
    · exact allows.clauses other (List.mem_append_left _ inside)
    · exact allows.clauses clause (List.mem_append_right _ (List.mem_singleton_self _))
  · rintro ⟨allows, holds⟩
    refine ⟨allows.values, fun other inside => ?_, allows.satisfiable⟩
    rcases List.mem_append.mp inside with before | new
    · exact allows.clauses other before
    · rw [Option.some.inj (List.mem_singleton.mp new)]
      exact holds

theorem allows_assign {known : Knowledge} {literal : Literal} {truth : Truth}
    (free : known.value? literal.atom = none) :
    (known.assign literal).Allows truth ↔
      known.Allows truth ∧ Clause.Holds truth [literal] := by
  rw [Clause.holds_singleton]
  constructor
  · intro allows
    refine ⟨⟨fun atom value found => ?_, allows.clauses, allows.satisfiable⟩, ?_⟩
    · apply allows.values atom value
      have other : literal.atom ≠ atom := by
        rintro rfl
        rw [free] at found
        exact Option.some_ne_none value found.symm
      rw [value?_assign, if_neg other, found]
    · exact allows.values _ _ (by rw [value?_assign, if_pos rfl])
  · rintro ⟨allows, holds⟩
    refine ⟨fun atom value found => ?_, allows.clauses, allows.satisfiable⟩
    rw [value?_assign] at found
    by_cases same : literal.atom = atom
    · rw [if_pos same] at found
      rw [← same, holds]
      exact Option.some.inj found
    · rw [if_neg same] at found
      exact allows.values atom value found

theorem not_allows_refute {known : Knowledge} {truth : Truth} : ¬known.refute.Allows truth :=
  fun allows => Bool.false_ne_true allows.satisfiable

/-- A truth assignment does not satisfy a clause that is opposed to what it is allowed by. -/
theorem Allows.not_holds_of_opposes {known : Knowledge} {clause : Clause} {truth : Truth}
    (allows : known.Allows truth) (opposes : known.Opposes clause) :
    ¬Clause.Holds truth clause := by
  obtain ⟨literal, rfl, against⟩ := opposes
  rw [Clause.holds_singleton, allows.values _ _ against]
  exact (Bool.not_eq_self literal.positive).mp

/-- **Absorbing a clause is exact.** Afterwards those truth assignments are allowed which were
allowed before and satisfy the clause. -/
theorem allows_absorb {known : Knowledge} {clause : Clause} {truth : Truth} :
    (known.absorb clause).Allows truth ↔ known.Allows truth ∧ Clause.Holds truth clause := by
  rcases known.absorb_cases clause with
    plural | ⟨literal, rfl, free⟩ | ⟨literal, rfl, same⟩ | against
  · rw [absorb_of_length plural, allows_store]
  · rw [absorb_of_none free, allows_assign free]
  · rw [absorb_of_same same, iff_self_and, Clause.holds_singleton]
    exact fun allows => allows.values _ _ same
  · rw [absorb_of_opposes against]
    constructor
    · exact fun allows => absurd allows not_allows_refute
    · exact fun both => absurd both.2 (both.1.not_holds_of_opposes against)

end Knowledge

namespace Solver

/-- The part of a solver that bears on what it holds to be true. -/
def knowledge (solver : Solver) : Knowledge :=
  ⟨solver.assignment, solver.satisfiable, solver.learnt.contents⟩

/-- The truth assignments that satisfy the values of atoms, all live learnt clauses, and nothing
once the solver is marked unsatisfiable. -/
structure Allows (solver : Solver) (truth : Truth) : Prop where
  values : ∀ atom value, solver.assignment.value? atom = some value → truth atom = value
  clauses : ∀ key clause, solver.literals? key = some clause → Clause.Holds truth clause
  satisfiable : solver.satisfiable = true

theorem literals?_eq_some_iff {solver : Solver} {key : LearntKey} {clause : Clause} :
    solver.literals? key = some clause ↔
      solver.knowledge.clauses[key.index]? = some (some clause) := by
  rw [literals?, ← LearntBase.contents_getElem?, Option.join_eq_some_iff]
  rfl

theorem mem_knowledge_clauses {solver : Solver} {clause : Clause} :
    some clause ∈ solver.knowledge.clauses ↔ ∃ key, solver.literals? key = some clause := by
  rw [List.mem_iff_getElem?]
  constructor
  · rintro ⟨index, found⟩
    exact ⟨⟨index⟩, literals?_eq_some_iff.mpr found⟩
  · rintro ⟨key, found⟩
    exact ⟨key.index, literals?_eq_some_iff.mp found⟩

/-- What a solver allows follows from what it knows. -/
theorem allows_iff {solver : Solver} {truth : Truth} :
    solver.Allows truth ↔ solver.knowledge.Allows truth := by
  constructor
  · intro allows
    refine ⟨allows.values, fun clause inside => ?_, allows.satisfiable⟩
    obtain ⟨key, found⟩ := mem_knowledge_clauses.mp inside
    exact allows.clauses key clause found
  · intro allows
    exact ⟨allows.values, fun key clause found =>
      allows.clauses clause (mem_knowledge_clauses.mpr ⟨key, found⟩), allows.satisfiable⟩

section

variable (solver : Solver)

@[simp] theorem knowledge_allocate (literals : Clause) (distance : Nat) :
    (Host.allocate literals distance solver).2.knowledge = solver.knowledge.store literals := by
  change Knowledge.mk _ _ (solver.learnt.allocate literals distance).2.contents = _
  rw [LearntBase.contents_allocate]
  rfl

theorem knowledge_onLearnt {change : LearntBase → LearntBase}
    (same : (change solver.learnt).contents = solver.learnt.contents) :
    (solver.onLearnt change).knowledge = solver.knowledge := by
  change Knowledge.mk _ _ (change solver.learnt).contents = _
  rw [same]
  rfl

@[simp] theorem knowledge_markTier (key : LearntKey) (tier : Tier) :
    (Host.markTier key tier solver).knowledge = solver.knowledge :=
  knowledge_onLearnt solver (solver.learnt.contents_markTier key tier)

@[simp] theorem knowledge_setTouched (key : LearntKey) (conflicts : Nat) :
    (Host.setTouched key conflicts solver).knowledge = solver.knowledge :=
  knowledge_onLearnt solver (solver.learnt.contents_setTouched key conflicts)

@[simp] theorem knowledge_bumpClause (key : LearntKey) :
    (Host.bumpClause key solver).knowledge = solver.knowledge :=
  knowledge_onLearnt solver (solver.learnt.contents_bumpClause key)

@[simp] theorem knowledge_attach (key : LearntKey) :
    (Host.attach key solver).knowledge = solver.knowledge :=
  knowledge_onLearnt solver (solver.learnt.contents_attach key)

@[simp] theorem knowledge_decayClauses :
    (Host.decayClauses solver).knowledge = solver.knowledge :=
  knowledge_onLearnt solver solver.learnt.contents_decayClauses

@[simp] theorem knowledge_noteCopy (key : LiteralSet) :
    (Host.noteCopy key solver).2.knowledge = solver.knowledge := rfl

@[simp] theorem knowledge_recordDistance (distance : Nat) :
    (Host.recordDistance distance solver).knowledge = solver.knowledge := rfl

@[simp] theorem knowledge_decayAtoms :
    (Host.decayAtoms solver).knowledge = solver.knowledge := rfl

end

end Solver

end ClauseSharing
