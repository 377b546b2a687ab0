import ClauseSharing.Clause

/-! # What clauses mean

A truth assignment gives every atom a truth value. A clause holds under it if one of its literals
does, and a formula entails the clauses that hold wherever it does. -/

namespace ClauseSharing

/-- A truth value for every atom. -/
abbrev Truth := Atom → Bool

/-- A propositional formula, as the truth assignments that satisfy it. -/
abbrev Formula := Truth → Prop

/-- Whether a literal is true. -/
def Literal.Holds (truth : Truth) (literal : Literal) : Prop :=
  truth literal.atom = literal.positive

/-- Whether a literal of a clause is true. -/
def Clause.Holds (truth : Truth) (clause : Clause) : Prop :=
  ∃ literal ∈ clause, literal.Holds truth

namespace Clause

theorem holds_singleton {truth : Truth} {literal : Literal} :
    Holds truth [literal] ↔ truth literal.atom = literal.positive := by
  constructor
  · rintro ⟨other, inside, holds⟩
    rw [List.mem_singleton.mp inside] at holds
    exact holds
  · intro holds
    exact ⟨literal, List.mem_singleton_self literal, holds⟩

end Clause

namespace Formula

/-- Whether a clause holds wherever the formula does. -/
def Entails (formula : Formula) (clause : Clause) : Prop :=
  ∀ truth, formula truth → Clause.Holds truth clause

/-- Whether nothing satisfies the formula. -/
def Unsatisfiable (formula : Formula) : Prop := ∀ truth, ¬formula truth

/-- A formula that entails a literal and its opposite is unsatisfiable. -/
theorem unsatisfiable_of_entails {formula : Formula} {atom : Atom} {value : Bool}
    (holds : formula.Entails [⟨atom, value⟩]) (opposite : formula.Entails [⟨atom, !value⟩]) :
    formula.Unsatisfiable := by
  intro truth satisfied
  have one := Clause.holds_singleton.mp (holds truth satisfied)
  have other := Clause.holds_singleton.mp (opposite truth satisfied)
  rw [one] at other
  exact (Bool.eq_not_self value).mp other

end Formula

end ClauseSharing
