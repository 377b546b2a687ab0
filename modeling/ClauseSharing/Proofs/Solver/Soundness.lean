import ClauseSharing.Portfolio
import ClauseSharing.Proofs.Import.Intake

/-! # Solvers that know nothing but what follows

What a solver knows is sound for a formula if the formula entails the live clauses and every value
that would outlast the decisions, and is unsatisfiable where the solver is marked
(`Knowledge.Sound`). Values given while decisions stand need not follow: their atoms are on the
trail behind the first decision, and going back erases them. The level tells whether a decision
stands as long as no more stand than it can count. Whatever a solver does with clauses and facts
that follow, and whatever it takes in from records that hold such clauses, its knowledge stays
sound. -/

namespace ClauseSharing

namespace Formula

/-- Whether the clause that a record holds follows, if it holds one. -/
def EntailsRecord (formula : Formula) (record : String) : Prop :=
  ∀ clause, Record.decode record = .ok clause → formula.Entails clause

end Formula

variable {formula : Formula}

namespace Assignment

/-- The literals that came to hold with the first decision or later. -/
def tentative (assignment : Assignment) : List Literal :=
  match assignment.decisions[0]? with
  | none => []
  | some start => assignment.trail.toList.drop start

/-- Whether every value follows, but for those of atoms that going back would erase. -/
structure Grounded (formula : Formula) (assignment : Assignment) : Prop where
  /-- The level counts the decisions that stand. -/
  counted : assignment.decisions.size < levelCount
  start_le : ∀ start, assignment.decisions[0]? = some start → start ≤ assignment.trail.size
  values : ∀ atom value, assignment.value? atom = some value →
    formula.Entails [⟨atom, value⟩] ∨ ∃ literal ∈ assignment.tentative, literal.atom = atom

variable {assignment : Assignment}

theorem tentative_of_none (none : assignment.decisions[0]? = none) : assignment.tentative = [] := by
  rw [tentative, none]

theorem tentative_of_some {start : Nat} (first : assignment.decisions[0]? = some start) :
    assignment.tentative = assignment.trail.toList.drop start := by
  rw [tentative, first]

/-- At level zero no decision stands, if the level counts them. -/
theorem decisions_of_level (counted : assignment.decisions.size < levelCount)
    (level : assignment.level = 0) : assignment.decisions[0]? = none := by
  rw [Array.getElem?_eq_none_iff]
  exact Nat.le_of_eq ((Nat.mod_eq_of_lt counted).symm.trans level)

theorem level_of_decisions (none : assignment.decisions[0]? = none) : assignment.level = 0 := by
  rw [Array.getElem?_eq_none_iff] at none
  rw [level, Nat.le_zero.mp none]
  rfl

theorem backjump_of_decisions (none : assignment.decisions[0]? = none) :
    assignment.backjump = assignment := by
  rw [backjump, none]

/-- Going back takes back every decision. -/
theorem decisions_backjump (assignment : Assignment) : assignment.backjump.decisions = #[] := by
  unfold backjump
  split
  · rename_i none
    rw [Array.getElem?_eq_none_iff] at none
    exact Array.eq_empty_of_size_eq_zero (Nat.le_zero.mp none)
  · rfl

theorem getElem?_foldl_erase (literals : List Literal) (values : Std.ExtTreeMap Atom Bool)
    (atom : Atom) :
    (literals.foldl (fun values literal => values.erase literal.atom) values)[atom]? =
      if atom ∈ literals.map Literal.atom then none else values[atom]? := by
  induction literals generalizing values with
  | nil => rw [List.foldl_nil, List.map_nil, if_neg List.not_mem_nil]
  | cons first rest ih =>
    rw [List.foldl_cons, ih, List.map_cons, Std.ExtTreeMap.getElem?_erase]
    by_cases same : atom = first.atom
    · subst same
      rw [if_pos Std.ReflCmp.compare_self, ite_self, if_pos List.mem_cons_self]
    · rw [if_neg fun equal => same (Std.LawfulEqCmp.eq_of_compare equal).symm]
      simp only [List.mem_cons, same, false_or]

/-- Going back takes the values of the literals that came to hold with the first decision or
later. -/
theorem value?_backjump (assignment : Assignment) (atom : Atom) :
    assignment.backjump.value? atom =
      if atom ∈ assignment.tentative.map Literal.atom then none else assignment.value? atom := by
  cases first : assignment.decisions[0]? with
  | none =>
    rw [backjump_of_decisions first, tentative_of_none first, List.map_nil,
      if_neg List.not_mem_nil]
  | some start =>
    rw [backjump, first, tentative_of_some first]
    exact getElem?_foldl_erase _ _ atom

theorem grounded_empty : Grounded formula {} where
  counted := by decide
  start_le := fun start first => by cases first
  values := fun atom value found => by
    rw [value?, Std.ExtTreeMap.getElem?_empty] at found
    cases found

/-- Where no decision stands, every value follows. -/
theorem Grounded.entails (grounded : assignment.Grounded formula) (level : assignment.level = 0)
    {atom : Atom} {value : Bool} (found : assignment.value? atom = some value) :
    formula.Entails [⟨atom, value⟩] := by
  rcases grounded.values atom value found with entailed | ⟨literal, inside, -⟩
  · exact entailed
  · rw [tentative_of_none (decisions_of_level grounded.counted level)] at inside
    exact absurd inside List.not_mem_nil

/-- A literal may be made to hold if it follows, or if a decision stands. -/
theorem Grounded.assign (grounded : assignment.Grounded formula) {literal : Literal}
    (permitted : assignment.level = 0 → formula.Entails [literal]) :
    (assignment.assign literal).Grounded formula := by
  cases first : assignment.decisions[0]? with
  | none =>
    have none : (assignment.assign literal).decisions[0]? = none := first
    have follows := permitted (level_of_decisions first)
    refine ⟨grounded.counted, fun start found => absurd (none.symm.trans found) nofun, ?_⟩
    intro atom value found
    rw [value?_assign] at found
    split at found
    · rename_i same
      cases found
      exact .inl (same ▸ follows)
    · exact .inl (grounded.entails (level_of_decisions first) found)
  | some start =>
    have still : (assignment.assign literal).decisions[0]? = some start := first
    have bound := grounded.start_le start first
    have longer : (assignment.assign literal).tentative = assignment.tentative ++ [literal] := by
      rw [tentative_of_some still, tentative_of_some first]
      change (assignment.trail.push literal).toList.drop start = _
      rw [Array.toList_push, List.drop_append_of_le_length bound]
    refine ⟨grounded.counted, fun other found => ?_, fun atom value found => ?_⟩
    · cases still.symm.trans found
      change start ≤ (assignment.trail.push literal).size
      rw [Array.size_push]
      exact Nat.le_succ_of_le bound
    · rw [longer]
      rw [value?_assign] at found
      split at found
      · rename_i same
        exact .inr ⟨literal, List.mem_append_right _ (List.mem_singleton_self _), same⟩
      · rcases grounded.values atom value found with entailed | ⟨other, inside, same⟩
        · exact .inl entailed
        · exact .inr ⟨other, List.mem_append_left _ inside, same⟩

/-- Any literal may be decided, as long as one more decision can be counted. -/
theorem Grounded.decide (grounded : assignment.Grounded formula) (literal : Literal)
    (room : assignment.decisions.size + 1 < levelCount) :
    (assignment.decide literal).Grounded formula := by
  have counted : (assignment.decide literal).decisions.size < levelCount := by
    change (assignment.decisions.push assignment.trail.size).size < levelCount
    rwa [Array.size_push]
  cases first : assignment.decisions[0]? with
  | none =>
    have size : assignment.decisions.size = 0 :=
      Nat.le_zero.mp (Array.getElem?_eq_none_iff.mp first)
    have starts : (assignment.decide literal).decisions[0]? = some assignment.trail.size := by
      change (assignment.decisions.push assignment.trail.size)[0]? = _
      rw [← size, Array.getElem?_push_size]
    have only : (assignment.decide literal).tentative = [literal] := by
      rw [tentative_of_some starts]
      change (assignment.trail.push literal).toList.drop assignment.trail.size = _
      rw [Array.toList_push, ← Array.length_toList, List.drop_left]
    refine ⟨counted, fun other found => ?_, fun atom value found => ?_⟩
    · cases starts.symm.trans found
      change assignment.trail.size ≤ (assignment.trail.push literal).size
      rw [Array.size_push]
      exact Nat.le_succ _
    · change (assignment.assign literal).value? atom = some value at found
      rw [only]
      rw [value?_assign] at found
      split at found
      · rename_i same
        exact .inr ⟨literal, List.mem_singleton_self _, same⟩
      · exact .inl (grounded.entails (level_of_decisions first) found)
  | some start =>
    have standing : assignment.level = 0 → formula.Entails [literal] := by
      intro level
      rw [decisions_of_level grounded.counted level] at first
      cases first
    have assigned := grounded.assign standing
    have still : (assignment.decide literal).decisions[0]? = some start := by
      change (assignment.decisions.push assignment.trail.size)[0]? = _
      obtain ⟨bound, _⟩ := Array.getElem?_eq_some_iff.mp first
      rw [Array.getElem?_push_lt bound, ← first, Array.getElem?_eq_getElem bound]
    have same : (assignment.decide literal).tentative =
        (assignment.assign literal).tentative := by
      have before : (assignment.assign literal).decisions[0]? = some start := first
      rw [tentative_of_some still, tentative_of_some before]
      rfl
    refine ⟨counted, fun other found => ?_, fun atom value found => ?_⟩
    · cases still.symm.trans found
      exact assigned.start_le start first
    · rw [same]
      exact assigned.values atom value found

/-- Only values that follow outlast the decisions. -/
theorem Grounded.backjump (grounded : assignment.Grounded formula) :
    assignment.backjump.Grounded formula where
  counted := by
    rw [decisions_backjump]
    decide
  start_le := fun start first => by
    rw [decisions_backjump] at first
    cases first
  values := fun atom value found => by
    rw [value?_backjump] at found
    split at found
    · cases found
    · rename_i kept
      rcases grounded.values atom value found with entailed | ⟨literal, inside, same⟩
      · exact .inl entailed
      · exact absurd (List.mem_map.mpr ⟨literal, inside, same⟩) kept

end Assignment

namespace Knowledge

/-- Whether what is known follows, but for values that going back would erase. -/
structure Sound (formula : Formula) (known : Knowledge) : Prop where
  grounded : known.assignment.Grounded formula
  clauses : ∀ clause, some clause ∈ known.clauses → formula.Entails clause
  refuted : known.satisfiable = false → formula.Unsatisfiable

variable {known last : Knowledge}

theorem Sound.store (sound : known.Sound formula) {clause : Clause}
    (entailed : formula.Entails clause) : (known.store clause).Sound formula := by
  refine ⟨sound.grounded, fun other inside => ?_, sound.refuted⟩
  rcases List.mem_append.mp inside with before | new
  · exact sound.clauses other before
  · rw [Option.some.inj (List.mem_singleton.mp new)]
    exact entailed

/-- Absorbing a clause that follows keeps soundness, where no decision stands. -/
theorem Sound.absorb (sound : known.Sound formula) (level : known.assignment.level = 0)
    {clause : Clause} (entailed : formula.Entails clause) :
    (known.absorb clause).Sound formula := by
  rcases known.absorb_cases clause with
    plural | ⟨literal, rfl, free⟩ | ⟨literal, rfl, same⟩ | against
  · rw [absorb_of_length plural]
    exact sound.store entailed
  · rw [absorb_of_none free]
    exact ⟨sound.grounded.assign fun _ => entailed, sound.clauses, sound.refuted⟩
  · rw [absorb_of_same same]
    exact sound
  · rw [absorb_of_opposes against]
    obtain ⟨literal, rfl, value⟩ := against
    have opposite := sound.grounded.entails level value
    exact ⟨sound.grounded, sound.clauses, fun _ =>
      Formula.unsatisfiable_of_entails entailed opposite⟩

theorem level_absorb (known : Knowledge) (clause : Clause) :
    (known.absorb clause).assignment.level = known.assignment.level := by
  rcases known.absorb_cases clause with
    plural | ⟨literal, rfl, free⟩ | ⟨literal, rfl, same⟩ | against
  · rw [absorb_of_length plural]
    rfl
  · rw [absorb_of_none free]
    rfl
  · rw [absorb_of_same same]
  · rw [absorb_of_opposes against]
    rfl

/-- Taking in records whose clauses follow keeps soundness, however that ends. -/
theorem Sound.intake (sound : known.Sound formula) (level : known.assignment.level = 0)
    {records : List String} (entailed : ∀ record ∈ records, formula.EntailsRecord record)
    {ending : Ending} (intake : Intake known records ending last) : last.Sound formula := by
  induction intake with
  | complete | unreadable | empty => exact sound
  | @opposed known record rest clause read against =>
    have follows := entailed record (List.mem_cons_self ..) clause read
    rw [← absorb_of_opposes against]
    exact sound.absorb level follows
  | @absorbed known last record rest clause ending read _ _ _ ih =>
    obtain ⟨first, others⟩ := List.forall_mem_cons.mp entailed
    apply ih (sound.absorb level (first clause read)) _ others
    rw [level_absorb, level]

end Knowledge

namespace Solver

theorem sound_starting (config : Config) : (starting config).knowledge.Sound formula where
  grounded := Assignment.grounded_empty
  clauses := fun _ none => absurd none List.not_mem_nil
  refuted := nofun

variable {solver : Solver}

theorem knowledge_learn (literals : Clause) (distance : Nat) :
    (solver.learn literals distance).2.knowledge = solver.knowledge.store literals := by
  change Knowledge.mk _ _ (solver.learnt.learn literals distance).2.contents = _
  rw [LearntBase.contents_learn]
  rfl

theorem sound_remove (sound : solver.knowledge.Sound formula) (key : LearntKey) :
    (solver.remove key).2.knowledge.Sound formula :=
  ⟨sound.grounded, fun clause inside =>
    sound.clauses clause (LearntBase.mem_contents_of_remove inside), sound.refuted⟩

end Solver

namespace SolverAction

/-- What a solver may be asked: its clauses have to follow, and so do literals that are made to hold
at level zero. It may be marked if the formula is unsatisfiable. It may decide anything as long as
the level counts the decisions that stand: with as many of them as there are levels it would be at
level zero again. -/
def Permitted (formula : Formula) (solver : Solver) : SolverAction → Prop
  | .learn literals _ => formula.Entails literals
  | .allocate literals _ => formula.Entails literals
  | .assignFact literal => solver.assignment.level = 0 → formula.Entails [literal]
  | .assign literal => solver.assignment.level = 0 → formula.Entails [literal]
  | .decide _ => solver.assignment.decisions.size + 1 < Assignment.levelCount
  | .setUnsatisfiable => formula.Unsatisfiable
  | _ => True

/-- Whatever a solver is asked that is permitted keeps its knowledge sound. -/
theorem sound_perform {solver : Solver} {action : SolverAction}
    (permitted : action.Permitted formula solver) (sound : solver.knowledge.Sound formula) :
    (action.perform solver).2.knowledge.Sound formula := by
  cases action with
  | learn literals distance =>
    change (solver.learn literals distance).2.knowledge.Sound formula
    rw [Solver.knowledge_learn]
    exact sound.store permitted
  | allocate literals distance =>
    change (Host.allocate literals distance solver).2.knowledge.Sound formula
    rw [Solver.knowledge_allocate]
    exact sound.store permitted
  | assignFact literal =>
    by_cases level : solver.assignment.level = 0
    · have done : (SolverAction.assignFact literal).perform solver =
          (.done, solver.assign literal) := by
        simp only [perform, Solver.assignFact?, Assignment.assignFact?,
          if_pos level, Option.map_some]
        rfl
      rw [done]
      exact ⟨sound.grounded.assign permitted, sound.clauses, sound.refuted⟩
    · have refused : (SolverAction.assignFact literal).perform solver = (.factRefused, solver) := by
        simp only [perform, Solver.assignFact?, Assignment.assignFact?,
          if_neg level, Option.map_none]
      rw [refused]
      exact sound
  | assign literal => exact ⟨sound.grounded.assign permitted, sound.clauses, sound.refuted⟩
  | decide literal => exact ⟨sound.grounded.decide literal permitted, sound.clauses, sound.refuted⟩
  | backjump => exact ⟨sound.grounded.backjump, sound.clauses, sound.refuted⟩
  | remove key => exact Solver.sound_remove sound key
  | setUnsatisfiable => exact ⟨sound.grounded, sound.clauses, fun _ => permitted⟩
  | markTier | setTouched | attach | bumpClause | decayClauses | decayAtoms | recordDistance |
      noteCopy =>
    simpa only [perform, Solver.knowledge_markTier, Solver.knowledge_setTouched,
      Solver.knowledge_attach, Solver.knowledge_bumpClause, Solver.knowledge_decayClauses,
      Solver.knowledge_decayAtoms, Solver.knowledge_recordDistance, Solver.knowledge_noteCopy]
      using sound
  | setAdaptive | setConflicts => exact sound

end SolverAction

end ClauseSharing
