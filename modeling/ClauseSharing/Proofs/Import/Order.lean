import ClauseSharing.Proofs.Import.Calls

/-! # Each call of an import among the others

Whatever a host answers, each call of an import fits among those before and behind it
(`ImportProgress.everywhere_course`): a clause of two literals or more is stored when its distance
has been told, and all that follows up to the decay of activities is about its key alone; a fact is
assigned to an atom without a value, and nothing follows the mark that a host has no model. That is
shown for the calls of one clause and carried over to all of them. -/

namespace ClauseSharing

namespace Call

variable {κ : Type}

/-- The key of the clause that a call is about. -/
def key? : Call κ → Option κ
  | markTier key _ | setTouched key _ | bumpClause key | attach key => some key
  | _ => none

/-- Whether a call comes of a record itself and not of a clause that has been stored. -/
def Opens : Call κ → Prop
  | recordDistance _ | allocate _ _ | assign _ | setUnsatisfiable => True
  | _ => False

/-- Whether something holds of each call with those before and behind it. -/
def Everywhere (holds : List (Call κ) → Call κ → List (Call κ) → Prop)
    (calls : List (Call κ)) : Prop :=
  ∀ front call rest, calls = front ++ call :: rest → holds front call rest

namespace Everywhere

variable {holds : List (Call κ) → Call κ → List (Call κ) → Prop} {calls more : List (Call κ)}

theorem of_mem (all : ∀ call ∈ calls, ∀ front rest, holds front call rest) :
    Everywhere holds calls := by
  rintro front call rest rfl
  exact all call (List.mem_append_right _ (List.mem_cons_self ..)) front rest

theorem cons {call : Call κ} (here : holds [] call calls)
    (behind : Everywhere (fun front => holds (call :: front)) calls) :
    Everywhere holds (call :: calls) := by
  intro front other rest same
  cases front with
  | nil =>
    cases same
    exact here
  | cons _ front =>
    obtain ⟨rfl, tail⟩ := List.cons.inj same
    exact behind front other rest tail

theorem append (before : Everywhere (fun front call rest => holds front call (rest ++ more)) calls)
    (behind : Everywhere (fun front => holds (calls ++ front)) more) :
    Everywhere holds (calls ++ more) := by
  intro front call rest same
  rcases List.append_eq_append_iff.mp same with ⟨middle, rfl, inMore⟩ | ⟨middle, inCalls, tail⟩
  · exact behind middle call rest inMore
  · cases middle with
    | nil =>
      have last := behind [] call rest tail.symm
      rwa [inCalls.trans (List.append_nil front), List.append_nil] at last
    | cons _ middle =>
      obtain ⟨rfl, rfl⟩ := List.cons.inj tail
      exact before front call middle inCalls

theorem mono {weaker : List (Call κ) → Call κ → List (Call κ) → Prop}
    (everywhere : Everywhere holds calls)
    (implies : ∀ front call rest, holds front call rest → weaker front call rest) :
    Everywhere weaker calls :=
  fun front call rest same => implies front call rest (everywhere front call rest same)

end Everywhere

end Call

namespace ImportProgress

variable {ω κ : Type} [Host ω κ] {settings : TierSettings}

section

variable {clause : Clause} {key : κ} {world : ω} {call : Call κ}

omit [Host ω κ] in
theorem eq_of_mem_guarded {condition : Prop} [Decidable condition] {only : Call κ}
    (inside : call ∈ if condition then [only] else []) : call = only := by
  split at inside
  · exact List.mem_singleton.mp inside
  · exact absurd inside List.not_mem_nil

theorem eq_of_mem_telling {distance : Nat} (inside : call ∈ telling distance world) :
    call = .recordDistance distance := eq_of_mem_guarded inside

theorem kind_of_mem_entering {tier : Tier} (inside : call ∈ entering key tier world) :
    ¬call.Opens ∧ call.key? = some key := by
  cases tier with
  | core => exact absurd inside List.not_mem_nil
  | second =>
    rw [List.mem_singleton.mp inside]
    exact ⟨id, rfl⟩
  | active =>
    rw [List.mem_singleton.mp inside]
    exact ⟨id, rfl⟩

/-- When a clause has been stored, what is asked next is about its key or about no key. -/
theorem kind_of_mem_serving (inside : call ∈ serving settings clause key world) :
    ¬call.Opens ∧ ∀ other, call.key? = some other → other = key := by
  rw [serving] at inside
  simp only [List.mem_append, List.mem_singleton] at inside
  rcases inside with ((((noted | rfl) | entered) | rfl) | faded) | rfl
  · rw [eq_of_mem_guarded noted]
    exact ⟨id, nofun⟩
  · exact ⟨id, fun _ same => (Option.some.inj same).symm⟩
  · obtain ⟨notOpening, about⟩ := kind_of_mem_entering entered
    exact ⟨notOpening, fun _ same => Option.some.inj (same.symm.trans about)⟩
  · exact ⟨id, fun _ same => (Option.some.inj same).symm⟩
  · rw [eq_of_mem_guarded faded]
    exact ⟨id, nofun⟩
  · exact ⟨id, nofun⟩

end

/-- Whether calls from a world on end with the distance being told, where the host is adaptive. -/
def Tells (distance : Nat) (world : ω) (front : List (Call κ)) : Prop :=
  ∃ earlier, front = earlier ++ telling distance (Call.after earlier world)

theorem tells_telling (distance : Nat) (world : ω) :
    Tells distance world (telling distance world ++ [] : List (Call κ)) := ⟨[], List.append_nil _⟩

theorem Tells.shift {distance : Nat} {earlier front : List (Call κ)} {world : ω}
    (tells : Tells distance (Call.after earlier world) front) :
    Tells distance world (earlier ++ front) := by
  obtain ⟨start, rfl⟩ := tells
  refine ⟨earlier ++ start, ?_⟩
  rw [Call.after_append, List.append_assoc]

/-- Whether a call fits among those before and behind it, where clauses are taken in and an import
comes to an end. -/
structure Fits (settings : TierSettings) (clauses : List Clause) (ending : Ending) (world : ω)
    (front : List (Call κ)) (call : Call κ) (rest : List (Call κ)) : Prop where
  /-- Distances are told to an adaptive host alone. -/
  told : ∀ distance, call = .recordDistance distance →
    Host.isAdaptive (Call.after front world) = true
  /-- A clause of two literals or more is stored when an adaptive host has been told its distance,
  and all that is asked for it comes next. -/
  served : ∀ clause distance, call = .allocate clause distance →
    let stored := Host.allocate clause distance (Call.after front world)
    2 ≤ clause.length ∧ distance = min clause.length 255 ∧ Tells distance world front ∧
      serving settings clause stored.1 stored.2 <+: rest
  /-- A call that does not come of a record itself is among those asked for a stored clause, and is
  about no other key. -/
  placed : ¬call.Opens → ∃ earlier clause distance during,
    front = earlier ++ .allocate clause distance :: during ∧
    let stored := Host.allocate clause distance (Call.after earlier world)
    during ++ [call] <+: serving settings clause stored.1 stored.2 ∧
      ∀ key, call.key? = some key → key = stored.1
  /-- A fact is a unit that is taken in, and its atom has no value before. -/
  assigned : ∀ literal, call = .assign literal →
    [literal] ∈ clauses ∧ Host.value? literal.atom (Call.after front world) = none ∧
      Tells 1 world front
  /-- Nothing comes after the mark that a host has no model, which is made at a contradiction
  alone. -/
  refuted : call = .setUnsatisfiable →
    rest = [] ∧ (∃ left, ending = .contradicted left) ∧ Tells 1 world front

namespace Fits

variable {clauses others : List Clause} {ending : Ending} {world : ω} {front rest : List (Call κ)}
  {call : Call κ}

theorem recordDistance (adaptive : Host.isAdaptive (Call.after front world) = true)
    (distance : Nat) :
    Fits settings clauses ending world front (.recordDistance distance) rest :=
  ⟨fun _ _ => adaptive, nofun, fun opens => absurd trivial opens, nofun, nofun⟩

/-- A call that does not come of a record itself fits where it is asked for a stored clause. -/
theorem of_not_opens (notOpening : ¬call.Opens)
    (placed : ∃ earlier clause distance during,
      front = earlier ++ .allocate clause distance :: during ∧
      let stored := Host.allocate clause distance (Call.after earlier world)
      during ++ [call] <+: serving settings clause stored.1 stored.2 ∧
        ∀ key, call.key? = some key → key = stored.1) :
    call ≠ .setUnsatisfiable ∧ Fits settings clauses ending world front call rest := by
  have other {opening : Call κ} (opens : opening.Opens) : call ≠ opening := fun same =>
    notOpening (same ▸ opens)
  exact ⟨other trivial, fun _ same => absurd same (other trivial),
    fun _ _ same => absurd same (other trivial), fun _ => placed,
    fun _ same => absurd same (other trivial), fun same => absurd same (other trivial)⟩

/-- What fits among the calls from a world on does so when other calls lead there. -/
theorem shift {earlier : List (Call κ)}
    (fits : Fits settings clauses ending (Call.after earlier world) front call rest) :
    Fits settings clauses ending world (earlier ++ front) call rest where
  told distance same := by
    rw [Call.after_append]
    exact fits.told distance same
  served clause distance same := by
    obtain ⟨plural, short, told, follows⟩ := fits.served clause distance same
    rw [Call.after_append]
    exact ⟨plural, short, told.shift, follows⟩
  placed other := by
    obtain ⟨start, clause, distance, during, rfl, follows⟩ := fits.placed other
    refine ⟨earlier ++ start, clause, distance, during, (List.append_assoc ..).symm, ?_⟩
    rwa [Call.after_append]
  assigned literal same := by
    obtain ⟨inside, valueless, told⟩ := fits.assigned literal same
    rw [Call.after_append]
    exact ⟨inside, valueless, told.shift⟩
  refuted same := by
    obtain ⟨last, contradicted, told⟩ := fits.refuted same
    exact ⟨last, contradicted, told.shift⟩

/-- More may follow any call but the last one. -/
theorem more (fits : Fits settings clauses ending world front call rest)
    (kept : call ≠ .setUnsatisfiable) (behind : List (Call κ)) :
    Fits settings clauses ending world front call (rest ++ behind) where
  told := fits.told
  served clause distance same := by
    obtain ⟨plural, short, told, follows⟩ := fits.served clause distance same
    exact ⟨plural, short, told, follows.trans (List.prefix_append ..)⟩
  placed := fits.placed
  assigned := fits.assigned
  refuted same := absurd same kept

theorem subset (fits : Fits settings clauses ending world front call rest)
    (subset : clauses ⊆ others) :
    Fits settings others ending world front call rest :=
  { fits with assigned := fun literal same => (fits.assigned literal same).imp_left (subset ·) }

end Fits

section

variable (settings) (ending : Ending)

open Call (Everywhere)

/-- Telling a distance fits whatever is asked next. -/
theorem everywhere_telling (clauses : List Clause) (distance : Nat) (world : ω) :
    Everywhere (fun front call _ => call ≠ .setUnsatisfiable ∧
      ∀ rest, Fits settings clauses ending world front call rest) (telling distance world) := by
  rw [telling]
  split
  · rename_i adaptive
    exact .cons ⟨nofun, fun _ => .recordDistance adaptive distance⟩ (.of_mem nofun)
  · exact .of_mem nofun

/-- The calls for a clause that is taken in fit among each other. -/
theorem everywhere_asking (clause : Clause) (world : ω) :
    Everywhere (fun front call rest => call ≠ .setUnsatisfiable ∧
      Fits settings [clause] ending world front call rest) (asking settings clause world) := by
  have told (distance : Nat) (rest : List (Call κ) → List (Call κ)) :=
    (everywhere_telling settings ending [clause] distance world).mono
      fun _ _ behind ⟨kept, fits⟩ => And.intro kept (fits (rest behind))
  rcases Nat.lt_or_ge 1 clause.length with plural | short
  · rw [asking_of_plural settings plural]
    refine .append (told _ _) (.cons ⟨nofun, ?_⟩ ?_)
    · refine ⟨nofun, ?_, fun opens => absurd trivial opens, nofun, nofun⟩
      rintro _ _ ⟨rfl, rfl⟩
      refine ⟨plural, rfl, tells_telling .., ?_⟩
      simp only [List.append_nil, List.prefix_refl]
    · intro front call rest same
      obtain ⟨notOpening, about⟩ := kind_of_mem_serving
        (same ▸ List.mem_append_right front (List.mem_cons_self ..))
      refine Fits.of_not_opens notOpening ⟨_, clause, clause.distance, front,
        rfl, ⟨rest, ?_⟩, about⟩
      rw [List.append_assoc]
      exact same.symm
  · match clause, short with
    | [], _ => exact told _ id
    | [literal], _ =>
      refine .append (told _ _) ?_
      split
      · rename_i valueless
        refine .cons ⟨nofun, ?_⟩ (.of_mem nofun)
        refine ⟨nofun, nofun, fun opens => absurd trivial opens, ?_, nofun⟩
        rintro _ ⟨rfl⟩
        refine ⟨List.mem_singleton_self _, ?_, tells_telling ..⟩
        rwa [List.append_nil]
      · exact .of_mem nofun

/-- The calls for clauses that are taken in one after the other fit among each other. -/
theorem everywhere_askingAll (clauses : List Clause) (world : ω) :
    Everywhere (fun front call rest => call ≠ .setUnsatisfiable ∧
      Fits settings clauses ending world front call rest) (askingAll settings clauses world) := by
  induction clauses generalizing world with
  | nil => exact .of_mem nofun
  | cons clause clauses ih =>
    have inside : [clause] ⊆ clause :: clauses :=
      List.cons_subset_cons clause (List.nil_subset clauses)
    refine .append ?_ ?_
    · exact (everywhere_asking settings ending clause world).mono fun _ _ _ ⟨kept, fits⟩ =>
        ⟨kept, (fits.subset inside).more kept _⟩
    · exact (ih _).mono fun _ _ _ ⟨kept, fits⟩ =>
        ⟨kept, (fits.subset (List.subset_cons_self ..)).shift⟩

theorem everywhere_closing (clauses : List Clause) (world : ω) :
    Everywhere (Fits settings clauses ending world) (ending.closing world) := by
  have told (distance : Nat) (rest : List (Call κ) → List (Call κ)) :=
    (everywhere_telling settings ending clauses distance world).mono
      fun _ _ behind ⟨_, fits⟩ => fits (rest behind)
  unfold Ending.closing
  split
  · exact told 0 id
  · exact .of_mem nofun
  · exact .of_mem nofun
  · rename_i left
    refine .append (told 1 _) (.cons ?_ (.of_mem nofun))
    exact ⟨nofun, nofun, fun opens => absurd trivial opens, nofun, fun _ =>
      ⟨rfl, ⟨left, rfl⟩, tells_telling ..⟩⟩

/-- **Every call of an import fits** among those before and behind it. -/
theorem everywhere_course (clauses : List Clause) (world : ω) :
    Everywhere (Fits settings clauses ending world) (course settings clauses ending world) := by
  refine .append ?_ ?_
  · exact (everywhere_askingAll settings ending clauses world).mono fun _ _ _ ⟨kept, fits⟩ =>
      fits.more kept _
  · exact (everywhere_closing settings ending clauses _).mono fun _ _ _ fits => fits.shift

end

end ImportProgress

end ClauseSharing
