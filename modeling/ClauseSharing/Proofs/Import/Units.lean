import ClauseSharing.Proofs.Import.Intake
import ClauseSharing.Proofs.Record

/-! # Taking in units and then clauses

The records of units, followed by those of clauses that are no units, come to this. As long as no
unit is against the values of before or against an earlier unit, the literals whose atoms had no
value are put on the trail, once each and in order, and then every clause is stored
(`Intake.units_clauses_of_accepts`). At the first unit that is, the solver is marked and nothing is
stored (`Intake.units_of_opposed`). -/

namespace ClauseSharing

namespace Assignment

/-- Whether a unit is against a value, or against one of the units before it. -/
def OpposedAfter (assignment : Assignment) (earlier : List Literal) (unit : Literal) : Prop :=
  assignment.value? unit.atom = some (!unit.positive) ∨ unit.negate ∈ earlier

/-- Whether no unit is against a value or against a unit before it. -/
def Accepts (assignment : Assignment) (units : List Literal) : Prop :=
  ∀ earlier unit later, units = earlier ++ unit :: later →
    ¬assignment.OpposedAfter earlier unit

/-- The units whose atoms have no value, in order of first occurrence. -/
def newUnits (assignment : Assignment) (units : List Literal) : List Literal :=
  (units.filter fun unit => (assignment.value? unit.atom).isNone).eraseDups

end Assignment

namespace Knowledge

variable {known : Knowledge} {unit : Literal}

/-- What is known after absorbing units. -/
def absorbUnits (known : Knowledge) (units : List Literal) : Knowledge :=
  units.foldl (fun known unit => known.absorb [unit]) known

theorem value?_of_not_opposes {value : Bool} (unopposed : ¬known.Opposes [unit])
    (held : known.value? unit.atom = some value) :
    known.value? unit.atom = some unit.positive := by
  rw [opposes_singleton, held] at unopposed
  rw [held]
  apply congrArg some
  apply Decidable.byContradiction
  exact fun differs => unopposed (congrArg some (Bool.eq_not_of_ne differs))

theorem value?_absorb_unit (unopposed : ¬known.Opposes [unit]) (atom : Atom) (value : Bool) :
    (known.absorb [unit]).value? atom = some value ↔
      known.value? atom = some value ∨ (⟨atom, value⟩ : Literal) = unit := by
  cases found : known.value? unit.atom with
  | none =>
    rw [absorb_of_none found, value?_assign]
    by_cases same : unit.atom = atom
    · subst same
      rw [if_pos rfl, found]
      constructor
      · intro given
        cases given
        exact .inr rfl
      · rintro (given | same)
        · exact nomatch given
        · exact congrArg some (congrArg Literal.positive same).symm
    · rw [if_neg same]
      constructor
      · exact .inl
      · rintro (given | rfl)
        · exact given
        · exact absurd rfl same
  | some held =>
    have holds := value?_of_not_opposes unopposed found
    rw [absorb_of_same holds]
    constructor
    · exact .inl
    · rintro (given | rfl)
      · exact given
      · exact holds

/-- A unit is against what comes before it just if it is against what is known once the first of
that has been absorbed, or against the rest. -/
theorem opposedAfter_cons (unopposed : ¬known.Opposes [unit]) {earlier : List Literal}
    {later : Literal} :
    known.assignment.OpposedAfter (unit :: earlier) later ↔
      (known.absorb [unit]).assignment.OpposedAfter earlier later := by
  have valued := value?_absorb_unit unopposed later.atom (!later.positive)
  change known.value? _ = _ ∨ _ ↔ (known.absorb [unit]).value? _ = _ ∨ _
  rw [valued, List.mem_cons, or_assoc]
  rfl

theorem opposedAfter_nil {unit : Literal} :
    known.assignment.OpposedAfter [] unit ↔ known.Opposes [unit] := by
  rw [opposes_singleton]
  constructor
  · rintro (against | none)
    · exact against
    · exact absurd none List.not_mem_nil
  · exact .inl

theorem accepts_cons {units : List Literal} :
    known.assignment.Accepts (unit :: units) ↔
      ¬known.Opposes [unit] ∧ (known.absorb [unit]).assignment.Accepts units := by
  constructor
  · intro accepts
    have first : ¬known.Opposes [unit] := fun against =>
      accepts [] unit units rfl (opposedAfter_nil.mpr against)
    refine ⟨first, fun earlier other later split opposed => ?_⟩
    apply accepts (unit :: earlier) other later (by rw [split]; rfl)
    exact (opposedAfter_cons first).mpr opposed
  · rintro ⟨first, accepts⟩ earlier other later split opposed
    cases earlier with
    | nil =>
      cases split
      exact first (opposedAfter_nil.mp opposed)
    | cons head earlier =>
      obtain ⟨rfl, rest⟩ := List.cons.inj split
      exact accepts earlier other later rest ((opposedAfter_cons first).mp opposed)

theorem accepts_nil : known.assignment.Accepts [] := by
  intro earlier unit later split
  exact absurd split.symm (List.append_ne_nil_of_right_ne_nil _ (List.cons_ne_nil _ _))

/-- Where not all units are accepted, there is a first one that is not. -/
theorem exists_first_opposed {units : List Literal} (refused : ¬known.assignment.Accepts units) :
    ∃ earlier unit later, units = earlier ++ unit :: later ∧ known.assignment.Accepts earlier ∧
      known.assignment.OpposedAfter earlier unit := by
  induction units generalizing known with
  | nil => exact absurd accepts_nil refused
  | cons unit units ih =>
    -- What the rest is measured against is what is known once this unit has been absorbed.
    by_cases first : known.Opposes [unit]
    · exact ⟨[], unit, units, rfl, accepts_nil, opposedAfter_nil.mpr first⟩
    · have rest : ¬(known.absorb [unit]).assignment.Accepts units := fun accepts =>
        refused (accepts_cons.mpr ⟨first, accepts⟩)
      obtain ⟨earlier, other, later, rfl, accepts, opposed⟩ := ih rest
      exact ⟨unit :: earlier, other, later, rfl, accepts_cons.mpr ⟨first, accepts⟩,
        (opposedAfter_cons first).mpr opposed⟩

theorem opposes_absorbUnits {earlier : List Literal} (accepts : known.assignment.Accepts earlier) :
    (known.absorbUnits earlier).Opposes [unit] ↔ known.assignment.OpposedAfter earlier unit := by
  induction earlier generalizing known with
  | nil => exact opposedAfter_nil.symm
  | cons head earlier ih =>
    obtain ⟨first, rest⟩ := accepts_cons.mp accepts
    rw [opposedAfter_cons first, ← ih rest]
    rfl

theorem negate_ne_of_accepts {units : List Literal}
    (accepts : known.assignment.Accepts (unit :: units)) {other : Literal}
    (inside : other ∈ units) : other.negate ≠ unit := by
  rintro rfl
  obtain ⟨earlier, later, split⟩ := List.append_of_mem inside
  apply accepts (other.negate :: earlier) other later (by rw [split]; rfl)
  exact .inr (List.mem_cons_self ..)

theorem newUnits_cons_of_none {units : List Literal}
    (accepts : known.assignment.Accepts (unit :: units))
    (free : known.value? unit.atom = none) :
    known.assignment.newUnits (unit :: units) =
      unit :: (known.absorb [unit]).assignment.newUnits units := by
  have isNew : (known.assignment.value? unit.atom).isNone = true := by
    rw [Option.isNone_iff_eq_none]
    exact free
  rw [Assignment.newUnits, List.filter_cons, if_pos isNew, List.eraseDups_cons, List.filter_filter,
    Assignment.newUnits, absorb_of_none free]
  congr 2
  apply List.filter_congr
  intro other inside
  have valued : (known.assign unit).assignment.value? other.atom =
      if unit.atom = other.atom then some unit.positive else known.value? other.atom :=
    value?_assign known unit other.atom
  rw [valued]
  by_cases same : unit.atom = other.atom
  · -- A later unit on the same atom is the same unit, for its opposite is not accepted.
    have equal : other = unit := by
      apply Literal.ext same.symm
      apply Decidable.byContradiction
      intro differs
      apply negate_ne_of_accepts accepts inside
      exact Literal.ext same.symm (Bool.eq_not_of_ne (Ne.symm differs)).symm
    rw [if_pos same, equal]
    simp
  · have differs : (other == unit) = false := by
      rw [beq_eq_false_iff_ne]
      rintro rfl
      exact same rfl
    rw [if_neg same, differs]
    rfl

theorem newUnits_cons_of_some {units : List Literal} {value : Bool}
    (held : known.value? unit.atom = some value) :
    known.assignment.newUnits (unit :: units) = known.assignment.newUnits units := by
  have old : ¬(known.assignment.value? unit.atom).isNone = true := by
    change ¬(known.value? unit.atom).isNone = true
    rw [held]
    exact Bool.false_ne_true
  rw [Assignment.newUnits, List.filter_cons, if_neg old, Assignment.newUnits]

/-- What accepted units leave of what was known, and the literals that they put on the trail. -/
theorem absorbUnits_of_accepts {units : List Literal} (accepts : known.assignment.Accepts units) :
    (known.absorbUnits units).satisfiable = known.satisfiable ∧
      (known.absorbUnits units).clauses = known.clauses ∧
      (known.absorbUnits units).assignment.trail.toList =
        known.assignment.trail.toList ++ known.assignment.newUnits units := by
  induction units generalizing known with
  | nil => exact ⟨rfl, rfl, (List.append_nil _).symm⟩
  | cons unit units ih =>
    obtain ⟨first, rest⟩ := accepts_cons.mp accepts
    have later := ih rest
    change ((known.absorb [unit]).absorbUnits units).satisfiable = _ ∧
      ((known.absorb [unit]).absorbUnits units).clauses = _ ∧
      ((known.absorb [unit]).absorbUnits units).assignment.trail.toList = _
    cases found : known.value? unit.atom with
    | none =>
      rw [later.1, later.2.1, later.2.2, newUnits_cons_of_none accepts found, absorb_of_none found]
      refine ⟨rfl, rfl, ?_⟩
      change (known.assignment.trail.push unit).toList ++ _ = _
      rw [Array.toList_push, List.append_assoc, List.singleton_append]
    | some value =>
      rw [newUnits_cons_of_some found]
      rw [absorb_of_same (value?_of_not_opposes first found)] at later ⊢
      exact later

/-- With more clauses. -/
def storeAll (known : Knowledge) (clauses : List Clause) : Knowledge :=
  { known with clauses := known.clauses ++ clauses.map some }

end Knowledge

namespace Intake

variable {known last : Knowledge} {ending : Ending}

/-- Accepted units are absorbed one by one. -/
theorem units_append_iff {units : List Literal} (accepts : known.assignment.Accepts units)
    (rest : List String) :
    Intake known (units.map Record.encodeUnit ++ rest) ending last ↔
      Intake (known.absorbUnits units) rest ending last := by
  induction units generalizing known with
  | nil => exact Iff.rfl
  | cons unit units ih =>
    obtain ⟨first, others⟩ := Knowledge.accepts_cons.mp accepts
    have read : Record.decode (Record.encodeUnit unit) = .ok [unit] := Record.decode_encode [unit]
    rw [List.map_cons, List.cons_append, cons_iff read (List.cons_ne_nil _ _), ih others]
    constructor
    · rintro (⟨against, -⟩ | ⟨-, intake⟩)
      · exact absurd against first
      · exact intake
    · exact fun intake => .inr ⟨first, intake⟩

/-- Clauses that are no units are stored one by one. -/
theorem clauses_iff {clauses : List Clause} (plural : ∀ clause ∈ clauses, 2 ≤ clause.length) :
    Intake known (clauses.map Record.encode) ending last ↔
      ending = .complete ∧ last = known.storeAll clauses := by
  induction clauses generalizing known with
  | nil =>
    rw [List.map_nil, nil_iff, Knowledge.storeAll, List.map_nil, List.append_nil]
  | cons clause clauses ih =>
    obtain ⟨long, others⟩ := List.forall_mem_cons.mp plural
    have length : clause.length ≠ 1 := by omega
    have nonempty : clause ≠ [] := by
      rintro rfl
      exact absurd long (by decide)
    have unopposed : ¬known.Opposes clause := Knowledge.not_opposes_of_length length
    have next : (known.store clause).storeAll clauses = known.storeAll (clause :: clauses) := by
      rw [Knowledge.storeAll, Knowledge.storeAll, Knowledge.store, List.append_assoc]
      rfl
    rw [List.map_cons, cons_iff (Record.decode_encode clause) nonempty,
      Knowledge.absorb_of_length length, ih others, next]
    constructor
    · rintro (⟨against, -⟩ | ⟨-, stored⟩)
      · exact absurd against unopposed
      · exact stored
    · exact fun stored => .inr ⟨unopposed, stored⟩

/-- Where every unit is accepted, the trail grows by those that are new and every clause is
stored. -/
theorem units_clauses_of_accepts {units : List Literal} {clauses : List Clause}
    (accepts : known.assignment.Accepts units) (plural : ∀ clause ∈ clauses, 2 ≤ clause.length)
    (intake : Intake known (units.map Record.encodeUnit ++ clauses.map Record.encode) ending last) :
    ending = .complete ∧ last.satisfiable = known.satisfiable ∧
      last.clauses = known.clauses ++ clauses.map some ∧
      last.assignment.trail.toList =
        known.assignment.trail.toList ++ known.assignment.newUnits units := by
  obtain ⟨complete, rfl⟩ := (clauses_iff plural).mp ((units_append_iff accepts _).mp intake)
  obtain ⟨satisfiable, kept, trail⟩ := Knowledge.absorbUnits_of_accepts accepts
  refine ⟨complete, satisfiable, ?_, trail⟩
  rw [Knowledge.storeAll, kept]

/-- At the first unit that is not accepted, the solver is marked, and nothing is stored. -/
theorem units_of_opposed {earlier later : List Literal} {unit : Literal} {rest : List String}
    (accepts : known.assignment.Accepts earlier)
    (opposed : known.assignment.OpposedAfter earlier unit)
    (intake : Intake known ((earlier ++ unit :: later).map Record.encodeUnit ++ rest) ending last) :
    ending = .contradicted (later.length + rest.length) ∧ last.satisfiable = false ∧
      last.clauses = known.clauses ∧
      last.assignment.trail.toList =
        known.assignment.trail.toList ++ known.assignment.newUnits earlier := by
  have read : Record.decode (Record.encodeUnit unit) = .ok [unit] := Record.decode_encode [unit]
  have against := (Knowledge.opposes_absorbUnits accepts).mpr opposed
  obtain ⟨-, clauses, trail⟩ := Knowledge.absorbUnits_of_accepts accepts
  rw [List.map_append, List.append_assoc, units_append_iff accepts, List.map_cons,
    List.cons_append, cons_iff read (List.cons_ne_nil _ _)] at intake
  rcases intake with ⟨-, ends, rfl⟩ | ⟨unopposed, -⟩
  · rw [List.length_append, List.length_map] at ends
    exact ⟨ends, rfl, clauses, trail⟩
  · exact absurd against unopposed

end Intake

end ClauseSharing
