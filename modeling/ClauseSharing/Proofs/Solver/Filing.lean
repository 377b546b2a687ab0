import ClauseSharing.Proofs.Solver.History
import ClauseSharing.Proofs.Solver.Lookup
import Mathlib.Data.List.Induction

/-! # Where learnt clauses are filed

All that has been asked of learnt clauses says what is found under each key and which keys each tier
has, in which order (`LearntBase.Filed`): a clause is found as it was stored until it is removed,
and a key is in the tier it was last put in while its clause was live. Every step keeps this
(`Filed.perform`), so it holds of a solver whatever happened to it. -/

namespace ClauseSharing

namespace LearntStep

/-- Whether a step was asked for when something held of all that had been asked for before, and
nothing that was asked for since undoes it. -/
def Since (steps : List LearntStep) (step : LearntStep) (held : List LearntStep → Prop)
    (undone : LearntStep → Prop) : Prop :=
  ∃ front back, steps = front ++ step :: back ∧ held front ∧ ∀ later ∈ back, ¬ undone later

/-- Whether a step stores a clause. -/
def allocates : LearntStep → Bool
  | allocate _ _ => true
  | _ => false

/-- How many clauses have been stored. -/
def made (steps : List LearntStep) : Nat := steps.countP allocates

/-- Whether a clause was stored under a key and has not been removed since. -/
def Stored (steps : List LearntStep) (key : LearntKey) (literals : Clause)
    (distance : Nat) : Prop :=
  Since steps (allocate literals distance) (fun front => made front = key.index) (· = remove key)

/-- Whether some clause was stored under a key and has not been removed since. -/
def Live (steps : List LearntStep) (key : LearntKey) : Prop :=
  ∃ literals distance, Stored steps key literals distance

/-- Whether a key was put in some tier while it was live. -/
def Marked (steps : List LearntStep) (key : LearntKey) : Prop :=
  ∃ tier, Since steps (markTier key tier) (Live · key) fun _ => False

/-- Whether a tier is the last that a key was put in, while it was live. -/
def FiledIn (steps : List LearntStep) (key : LearntKey) (tier : Tier) : Prop :=
  Since steps (markTier key tier) (Live · key) fun later => ∃ tier, later = markTier key tier

/-- Whether one key was last put in a tier before another was. -/
def FiledBefore (steps : List LearntStep) (one other : LearntKey) : Prop :=
  ∃ tier, Since steps (markTier other tier)
    (fun front => Live front other ∧ ∃ tier, FiledIn front one tier)
    fun later => ∃ tier, later = markTier one tier

variable {steps : List LearntStep} {last : LearntStep} {key : LearntKey}

theorem since_concat {step : LearntStep} {held : List LearntStep → Prop}
    {undone : LearntStep → Prop} :
    Since (steps ++ [last]) step held undone ↔
      (last = step ∧ held steps) ∨ (Since steps step held undone ∧ ¬ undone last) := by
  constructor
  · rintro ⟨front, back, split, before, after⟩
    rcases List.eq_nil_or_concat back with rfl | ⟨rest, final, rfl⟩
    · obtain ⟨rfl, same⟩ := List.append_inj' split rfl
      exact .inl ⟨List.head_eq_of_cons_eq same, before⟩
    · have shifted : steps ++ [last] = (front ++ step :: rest) ++ [final] := by
        rw [split, List.append_assoc, List.cons_append, List.concat_eq_append]
      obtain ⟨rfl, same⟩ := List.append_inj' shifted rfl
      rw [List.head_eq_of_cons_eq same]
      rw [List.concat_eq_append] at after
      exact .inr ⟨⟨front, rest, rfl, before, fun later inside =>
        after later (List.mem_append_left _ inside)⟩,
        after final (List.mem_append_right _ (List.mem_singleton_self final))⟩
  · rintro (⟨rfl, before⟩ | ⟨⟨front, back, rfl, before, after⟩, kept⟩)
    · exact ⟨steps, [], rfl, before, fun _ inside => absurd inside List.not_mem_nil⟩
    · refine ⟨front, back ++ [last], by rw [List.append_assoc, List.cons_append], before, ?_⟩
      intro later inside
      rcases List.mem_append.mp inside with earlier | here
      · exact after later earlier
      · rw [List.mem_singleton.mp here]
        exact kept

theorem not_since_nil {step : LearntStep} {held : List LearntStep → Prop}
    {undone : LearntStep → Prop} : ¬ Since [] step held undone := by
  rintro ⟨front, back, split, _⟩
  exact List.append_ne_nil_of_right_ne_nil front (List.cons_ne_nil step back) split.symm

theorem made_concat : made (steps ++ [last]) = made steps + if last.allocates then 1 else 0 := by
  rw [made, made, List.countP_append, List.countP_singleton]

theorem stored_concat {literals : Clause} {distance : Nat} :
    Stored (steps ++ [last]) key literals distance ↔
      (last = allocate literals distance ∧ made steps = key.index) ∨
        (Stored steps key literals distance ∧ last ≠ remove key) := since_concat

/-- A key that was live at some time was made by then. -/
theorem Live.made (live : Live steps key) : key.index < made steps := by
  obtain ⟨literals, distance, front, back, rfl, here, _⟩ := live
  rw [LearntStep.made, List.countP_append, List.countP_cons]
  have counted : front.countP allocates = key.index := here
  simp only [counted, allocates, if_pos]
  omega

theorem made_le_append (front back : List LearntStep) : made front ≤ made (front ++ back) := by
  rw [made, made, List.countP_append]
  exact Nat.le_add_right _ _

/-- A key that something was asked about while it was live was made by then. -/
theorem Since.made {step : LearntStep} {undone : LearntStep → Prop}
    (since : Since steps step (Live · key) undone) : key.index < made steps := by
  obtain ⟨front, back, rfl, live, _⟩ := since
  exact Nat.lt_of_lt_of_le live.made (made_le_append front _)

theorem FiledIn.marked {tier : Tier} (filed : FiledIn steps key tier) : Marked steps key := by
  obtain ⟨front, back, split, live, _⟩ := filed
  exact ⟨tier, front, back, split, live, fun _ _ => not_false⟩

theorem live_concat :
    Live (steps ++ [last]) key ↔
      (last.allocates = true ∧ made steps = key.index) ∨ (Live steps key ∧ last ≠ remove key) := by
  constructor
  · rintro ⟨literals, distance, stored⟩
    rcases stored_concat.mp stored with ⟨rfl, here⟩ | ⟨stored, kept⟩
    · exact .inl ⟨rfl, here⟩
    · exact .inr ⟨⟨literals, distance, stored⟩, kept⟩
  · rintro (⟨allocated, here⟩ | ⟨⟨literals, distance, stored⟩, kept⟩)
    · cases last with
      | allocate literals distance =>
        exact ⟨literals, distance, stored_concat.mpr (.inl ⟨rfl, here⟩)⟩
      | _ => cases allocated
    · exact ⟨literals, distance, stored_concat.mpr (.inr ⟨stored, kept⟩)⟩

theorem filedIn_concat {tier : Tier} :
    FiledIn (steps ++ [last]) key tier ↔
      (last = markTier key tier ∧ Live steps key) ∨
        (FiledIn steps key tier ∧ ¬ ∃ tier, last = markTier key tier) := since_concat

theorem FiledBefore.concat {one other : LearntKey} (before : FiledBefore steps one other)
    (kept : ¬ ∃ tier, last = markTier one tier) : FiledBefore (steps ++ [last]) one other := by
  obtain ⟨tier, since⟩ := before
  exact ⟨tier, since_concat.mpr (.inr ⟨since, kept⟩)⟩

/-- A live key that was put in a tier is still in the one it was last put in. -/
theorem Marked.filedIn (marked : Marked steps key) (live : Live steps key) :
    ∃ tier, FiledIn steps key tier := by
  induction steps using List.reverseRecOn with
  | nil =>
    obtain ⟨tier, since⟩ := marked
    exact absurd since not_since_nil
  | append_singleton steps last ih =>
    by_cases again : ∃ tier, last = markTier key tier
    · obtain ⟨tier, rfl⟩ := again
      rcases live_concat.mp live with ⟨allocated, _⟩ | ⟨before, _⟩
      · cases allocated
      · exact ⟨tier, filedIn_concat.mpr (.inl ⟨rfl, before⟩)⟩
    · obtain ⟨tier, since⟩ := marked
      rcases since_concat.mp since with ⟨here, _⟩ | ⟨earlier, _⟩
      · exact absurd ⟨tier, here⟩ again
      · have marked : Marked steps key := ⟨tier, earlier⟩
        rcases live_concat.mp live with ⟨_, fresh⟩ | ⟨before, _⟩
        · exact absurd earlier.made (by omega)
        · obtain ⟨tier, filed⟩ := ih marked before
          exact ⟨tier, filedIn_concat.mpr (.inr ⟨filed, again⟩)⟩

end LearntStep

namespace LearntBase

open LearntStep (Stored Live FiledIn FiledBefore)

/-- Whether clauses and tiers are as all that has been asked of them says. -/
structure Filed (steps : List LearntStep) (base : LearntBase) : Prop where
  made : base.clauses.size = LearntStep.made steps
  stored : ∀ key literals distance,
    (∃ found, base.find? key = some found ∧ found.literals = literals ∧ found.distance = distance) ↔
      Stored steps key literals distance
  own : ∀ key tier, key ∈ base.tierKeys tier →
    ∃ found, base.find? key = some found ∧ found.tier = tier
  listed : ∀ key tier, key ∈ base.tierKeys tier ↔ Live steps key ∧ FiledIn steps key tier
  nodup : ∀ tier, (base.tierKeys tier).Nodup
  ordered : ∀ tier, (base.tierKeys tier).Pairwise (FiledBefore steps)

variable {steps : List LearntStep} {last : LearntStep} {base next : LearntBase} {key : LearntKey}

theorem Filed.live (filed : Filed steps base) (key : LearntKey) :
    (base.find? key).isSome = true ↔ Live steps key := by
  rw [Option.isSome_iff_exists]
  constructor
  · rintro ⟨found, present⟩
    exact ⟨_, _, (filed.stored key _ _).mp ⟨found, present, rfl, rfl⟩⟩
  · rintro ⟨literals, distance, stored⟩
    obtain ⟨found, present, _⟩ := (filed.stored key literals distance).mpr stored
    exact ⟨found, present⟩

theorem filed_starting (settings : ActivitySettings) : Filed [] (starting settings) where
  made := rfl
  stored key literals distance := by
    constructor
    · rintro ⟨found, present, _⟩
      cases present
    · exact fun stored => absurd stored LearntStep.not_since_nil
  own key tier inside := by cases tier <;> cases inside
  listed key tier := by
    constructor
    · intro inside
      cases tier <;> cases inside
    · exact fun both => absurd both.2 LearntStep.not_since_nil
  nodup tier := by cases tier <;> exact List.nodup_nil
  ordered tier := by cases tier <;> exact List.Pairwise.nil

/-- What is looked at of a clause when it is filed. -/
def filing (learnt : LearntClause) : Clause × Nat × Tier :=
  (learnt.literals, learnt.distance, learnt.tier)

/-- Under each key of two bases that look the same, the same is found. -/
theorem exists_found_iff (same : next.seen filing = base.seen filing) (key : LearntKey)
    (holds : Clause × Nat × Tier → Prop) :
    (∃ found, next.find? key = some found ∧ holds (filing found)) ↔
      ∃ found, base.find? key = some found ∧ holds (filing found) := by
  have seen := map_find?_of_seen same key
  cases after : next.find? key with
  | none =>
    rw [after, Option.map_none] at seen
    rw [Option.map_eq_none_iff.mp seen.symm]
  | some found =>
    rw [after, Option.map_some] at seen
    obtain ⟨held, before, alike⟩ := Option.map_eq_some_iff.mp seen.symm
    simp only [before, Option.some.injEq, exists_eq_left', alike]

/-- What neither stores a clause nor removes one nor puts one in a tier is no matter. -/
theorem Filed.idle (filed : Filed steps base) (same : next.seen filing = base.seen filing)
    (tiers : next.tiers = base.tiers) (made : last.allocates = false)
    (kept : ∀ key, last ≠ .remove key) (unmarked : ∀ key tier, last ≠ .markTier key tier) :
    Filed (steps ++ [last]) next := by
  have keys : ∀ tier, next.tierKeys tier = base.tierKeys tier := fun tier => by
    rw [tierKeys, tiers, tierKeys]
  have unfiled : ∀ key, ¬ ∃ tier, last = .markTier key tier := fun key =>
    not_exists.mpr (unmarked key)
  have live : ∀ key, Live (steps ++ [last]) key ↔ Live steps key := fun key => by
    simp only [LearntStep.live_concat, made, Bool.false_eq_true, false_and,
      false_or, ne_eq, kept key, not_false_iff, and_true]
  have stored : ∀ key literals distance,
      Stored (steps ++ [last]) key literals distance ↔ Stored steps key literals distance := by
    intro key literals distance
    have fresh : last ≠ .allocate literals distance := by
      rintro rfl
      cases made
    simp only [LearntStep.stored_concat, fresh, false_and, false_or, ne_eq, kept key, not_false_iff,
      and_true]
  exact
    { made := by
        rw [LearntStep.made_concat, made, ← filed.made, ← length_seen filing, same, length_seen]
        rfl
      stored := fun key literals distance =>
        (exists_found_iff same key fun view => view.1 = literals ∧ view.2.1 = distance).trans
          ((filed.stored key literals distance).trans (stored key literals distance).symm)
      own := fun key tier inside =>
        (exists_found_iff same key fun view => view.2.2 = tier).mpr
          (filed.own key tier (keys tier ▸ inside))
      listed := fun key tier => by
        rw [keys, filed.listed, live, LearntStep.filedIn_concat]
        simp only [unmarked key tier, false_and, false_or, unfiled key, not_false_iff, and_true]
      nodup := fun tier => by
        rw [keys]
        exact filed.nodup tier
      ordered := fun tier => by
        rw [keys]
        exact (filed.ordered tier).imp fun {one} {_} before => before.concat (unfiled one) }

theorem Filed.allocate (filed : Filed steps base) (literals : Clause) (distance : Nat) :
    Filed (steps ++ [.allocate literals distance]) (base.allocate literals distance).2 := by
  have unmarked : ∀ key, ¬ ∃ tier, LearntStep.allocate literals distance = .markTier key tier := by
    rintro key ⟨tier, same⟩
    cases same
  exact
    { made := by
        rw [size_allocate, LearntStep.made_concat, filed.made]
        rfl
      stored := fun key others far => by
        rw [find?_allocate, LearntStep.stored_concat, ← filed.made]
        by_cases fresh : key.index = base.clauses.size
        · have unstored : ¬ Stored steps key others far := by
            intro stored
            have made := LearntStep.Live.made ⟨others, far, stored⟩
            rw [← filed.made, fresh] at made
            exact Nat.lt_irrefl _ made
          simp [fresh, unstored]
        · have apart : base.clauses.size ≠ key.index := fun same => fresh same.symm
          simp [fresh, apart, filed.stored key others far]
      own := fun key tier inside => by
        obtain ⟨found, present, here⟩ := filed.own key tier inside
        have old : key.index ≠ base.clauses.size := Nat.ne_of_lt (made_of_find? present)
        exact ⟨found, by rw [find?_allocate, if_neg old, present], here⟩
      listed := fun key tier => by
        rw [LearntStep.live_concat, LearntStep.filedIn_concat]
        constructor
        · intro inside
          obtain ⟨live, here⟩ := (filed.listed key tier).mp inside
          exact ⟨.inr ⟨live, LearntStep.noConfusion⟩, .inr ⟨here, unmarked key⟩⟩
        · rintro ⟨⟨_, fresh⟩ | ⟨live, _⟩, ⟨marks, _⟩ | ⟨here, _⟩⟩
          · exact absurd ⟨tier, marks⟩ (unmarked key)
          · exact absurd (LearntStep.Since.made here) (by omega)
          · exact absurd ⟨tier, marks⟩ (unmarked key)
          · exact (filed.listed key tier).mpr ⟨live, here⟩
      nodup := filed.nodup
      ordered := fun tier => (filed.ordered tier).imp fun {one} {_} before =>
        before.concat (unmarked one) }

/-- Where a key is put behind all others, what is in order stays so. -/
theorem pairwise_refiled {before after : LearntKey → LearntKey → Prop} {keys : List LearntKey}
    {placed : Prop} [Decidable placed] (ordered : keys.Pairwise before)
    (kept : ∀ one other, one ≠ key → before one other → after one other)
    (behind : placed → ∀ one ∈ keys, one ≠ key → after one key) :
    (keys.filter (· ≠ key) ++ if placed then [key] else []).Pairwise after := by
  refine List.pairwise_append.mpr ⟨?_, ?_, ?_⟩
  · refine (ordered.filter _).imp_of_mem fun {one other} inside _ => kept one other ?_
    exact of_decide_eq_true (List.mem_filter.mp inside).2
  · split
    · exact List.pairwise_singleton after key
    · exact List.Pairwise.nil
  · intro one inside other last
    split at last
    · rename_i here
      rw [List.mem_singleton.mp last]
      exact behind here one (List.mem_filter.mp inside).1
        (of_decide_eq_true (List.mem_filter.mp inside).2)
    · cases last

theorem Filed.markTier (filed : Filed steps base) (key : LearntKey) (tier : Tier) :
    Filed (steps ++ [.markTier key tier]) (base.markTier key tier) := by
  have live : ∀ other, Live (steps ++ [.markTier key tier]) other ↔ Live steps other :=
    fun other => by
    simp [LearntStep.live_concat, LearntStep.allocates]
  have unmarked : ∀ {other}, other ≠ key →
      ¬ ∃ here, LearntStep.markTier key tier = .markTier other here := by
    rintro other apart ⟨here, same⟩
    cases same
    exact apart rfl
  have listed : ∀ other here, other ∈ (base.markTier key tier).tierKeys here ↔
      (other ∈ base.tierKeys here ∧ other ≠ key) ∨
      (other = key ∧ here = tier ∧ Live steps key) := by
    intro other here
    rw [mem_tierKeys_markTier (filed.own key), filed.live key]
  exact
    { made := by
        rw [size_markTier, LearntStep.made_concat, filed.made]
        rfl
      stored := fun other literals distance => by
        rw [find?_markTier, LearntStep.stored_concat, ← filed.stored other literals distance]
        cases base.find? other with
        | none => simp
        | some found => by_cases same : other = key <;> simp [same]
      own := fun other here inside => by
        rw [find?_markTier]
        rcases (listed other here).mp inside with ⟨before, apart⟩ | ⟨same, placed, alive⟩
        · obtain ⟨found, present, held⟩ := filed.own other here before
          exact ⟨found, by rw [present, Option.map_some, if_neg apart], held⟩
        · obtain ⟨found, present⟩ := Option.isSome_iff_exists.mp ((filed.live key).mpr alive)
          rw [same, present, Option.map_some, if_pos rfl]
          exact ⟨_, rfl, placed.symm⟩
      listed := fun other here => by
        rw [listed, live, LearntStep.filedIn_concat, filed.listed]
        constructor
        · rintro (⟨⟨alive, held⟩, apart⟩ | ⟨rfl, rfl, alive⟩)
          · exact ⟨alive, .inr ⟨held, unmarked apart⟩⟩
          · exact ⟨alive, .inl ⟨rfl, alive⟩⟩
        · rintro ⟨alive, ⟨placed, _⟩ | ⟨held, others⟩⟩
          · cases placed
            exact .inr ⟨rfl, rfl, alive⟩
          · refine .inl ⟨⟨alive, held⟩, ?_⟩
            rintro rfl
            exact others ⟨tier, rfl⟩
      nodup := fun here => by
        rw [tierKeys_markTier (filed.own key)]
        exact pairwise_refiled (filed.nodup here) (fun _ _ _ apart => apart) fun _ _ _ apart =>
          apart
      ordered := fun here => by
        rw [tierKeys_markTier (filed.own key)]
        refine pairwise_refiled (filed.ordered here)
          (fun one other apart before => before.concat (unmarked apart)) ?_
        rintro ⟨_, present⟩ one inside apart
        obtain ⟨_, held⟩ := (filed.listed one here).mp inside
        exact ⟨tier, LearntStep.since_concat.mpr
          (.inl ⟨rfl, (filed.live key).mp present, here, held⟩)⟩ }

theorem Filed.remove (filed : Filed steps base) (key : LearntKey) :
    Filed (steps ++ [.remove key]) (base.remove key).2 := by
  have live : ∀ other, Live (steps ++ [.remove key]) other ↔ Live steps other ∧ other ≠ key := by
    intro other
    simp [LearntStep.live_concat, LearntStep.allocates, eq_comm]
  have unmarked : ∀ other, ¬ ∃ here, LearntStep.remove key = .markTier other here := by
    rintro other ⟨here, same⟩
    cases same
  exact
    { made := by
        rw [size_remove, LearntStep.made_concat, filed.made]
        rfl
      stored := fun other literals distance => by
        rw [find?_remove, LearntStep.stored_concat, ← filed.stored other literals distance]
        by_cases same : other = key <;> simp [same, Ne.symm]
      own := fun other tier inside => by
        rw [tierKeys_remove (filed.own key)] at inside
        obtain ⟨before, apart⟩ := List.mem_filter.mp inside
        rw [find?_remove, if_neg (of_decide_eq_true apart)]
        exact filed.own other tier before
      listed := fun other tier => by
        rw [tierKeys_remove (filed.own key), List.mem_filter,
          decide_eq_true_iff, filed.listed, live, LearntStep.filedIn_concat]
        simp only [reduceCtorEq, false_and, false_or, exists_false, not_false_iff, and_true]
        exact and_right_comm
      nodup := fun tier => by
        rw [tierKeys_remove (filed.own key)]
        exact (filed.nodup tier).filter _
      ordered := fun tier => by
        rw [tierKeys_remove (filed.own key)]
        exact ((filed.ordered tier).filter _).imp fun {one} {_} before =>
          before.concat (unmarked one) }

/-- Every step files what it is about. -/
theorem Filed.perform (filed : Filed steps base) (step : LearntStep) :
    Filed (steps ++ [step]) (step.perform base) := by
  cases step with
  | allocate literals distance => exact filed.allocate literals distance
  | markTier key tier => exact filed.markTier key tier
  | remove key => exact filed.remove key
  | setTouched key conflicts =>
    exact filed.idle (seen_setTouched (fun _ _ => rfl) base key conflicts)
      (base.tiers_setTouched key conflicts) rfl (fun _ => LearntStep.noConfusion)
      fun _ _ => LearntStep.noConfusion
  | bumpClause key =>
    exact filed.idle (seen_bumpClause (fun _ _ => rfl) base key) (base.tiers_bumpClause key) rfl
      (fun _ => LearntStep.noConfusion) fun _ _ => LearntStep.noConfusion
  | attach key =>
    exact filed.idle (seen_attach (fun _ _ => rfl) base key) (base.tiers_attach key) rfl
      (fun _ => LearntStep.noConfusion) fun _ _ => LearntStep.noConfusion
  | decayClauses =>
    exact filed.idle (seen_decayClauses (fun _ _ => rfl) base) base.tiers_decayClauses rfl
      (fun _ => LearntStep.noConfusion) fun _ _ => LearntStep.noConfusion

theorem filed_performAll (filed : Filed [] base) (steps : List LearntStep) :
    Filed steps (LearntStep.performAll base steps) := by
  induction steps using List.reverseRecOn with
  | nil => exact filed
  | append_singleton steps step ih =>
    rw [LearntStep.performAll_concat]
    exact ih.perform step

end LearntBase

/-- The key of the clause that a step is about, where it is one that was handed out before. -/
def LearntStep.key? : LearntStep → Option LearntKey
  | allocate _ _ => none
  | markTier key _ => some key
  | setTouched key _ => some key
  | bumpClause key => some key
  | attach key => some key
  | decayClauses => none
  | remove key => some key

/-- A learnt clause without its activity. -/
def LearntClause.inactive (learnt : LearntClause) : LearntClause := { learnt with activity := 0.0 }

namespace LearntBase

variable {base : LearntBase} {key : LearntKey}

/-- A step about a key under which nothing is found scales activities down at most. -/
theorem perform_of_absent {step : LearntStep} (about : step.key? = some key)
    (absent : base.find? key = none) :
    step.perform base = base ∨ step.perform base = base.rescale := by
  cases step with
  | allocate literals distance => cases about
  | decayClauses => cases about
  | markTier key tier =>
    cases about
    exact .inl (markTier_of_absent absent tier)
  | setTouched key conflicts =>
    cases about
    exact .inl (setTouched_of_absent absent conflicts)
  | attach key =>
    cases about
    exact .inl (attach_of_absent absent)
  | remove key =>
    cases about
    exact .inl (congrArg Prod.snd (remove_of_absent absent))
  | bumpClause key =>
    cases about
    exact bumpClause_of_absent absent

/-- Scaling activities down changes nothing else. -/
theorem find?_rescale (base : LearntBase) (key : LearntKey) :
    (base.rescale.find? key).map LearntClause.inactive =
      (base.find? key).map LearntClause.inactive :=
  map_find?_of_seen (seen_rescale (fun _ _ => rfl) base) key

end LearntBase

namespace Solver

open LearntStep (Stored Live Marked FiledIn FiledBefore)

/-- Whether a solver files its learnt clauses as all that has been asked of them says. -/
structure WellFiled (steps : List LearntStep) (solver : Solver) : Prop where
  /-- The next key is one that was never made before, as long as there is one. -/
  fresh : LearntStep.made steps < LearntBase.keyCount → ∀ literals distance,
    (solver.learnt.allocate literals distance).1.index = LearntStep.made steps
  /-- Under a key the clause is found that was stored under it, and after its removal none. -/
  stored : ∀ key literals distance,
    (∃ found, solver.learnt.find? key = some found ∧ found.literals = literals ∧
      found.distance = distance) ↔ Stored steps key literals distance
  literals : ∀ key literals,
    solver.literals? key = some literals ↔ ∃ distance, Stored steps key literals distance
  gone : ∀ front key back, steps = front ++ .remove key :: back →
    key.index < LearntStep.made front →
    solver.learnt.find? key = none ∧ solver.literals? key = none
  /-- No key is in the tiers twice. -/
  once : (solver.learnt.tierKeys .core ++ solver.learnt.tierKeys .second ++
    solver.learnt.tierKeys .active).Nodup
  /-- A key is in a tier if it was put in one while it was live, and is live. -/
  filed : ∀ key, (∃ tier, key ∈ solver.learnt.tierKeys tier) ↔ Live steps key ∧ Marked steps key
  /-- The tier is the one that it was last put in, and the one its clause tells. -/
  tier : ∀ key tier, key ∈ solver.learnt.tierKeys tier → FiledIn steps key tier ∧
    ∃ found, solver.learnt.find? key = some found ∧ found.tier = tier
  /-- Keys stand in the order in which they were put in the tier. -/
  ordered : ∀ tier, (solver.learnt.tierKeys tier).Pairwise (FiledBefore steps)
  /-- What is asked about a key under which nothing is found scales activities down at most. -/
  inert : ∀ step key, LearntStep.key? step = some key → solver.learnt.find? key = none →
    (step.perform solver.learnt = solver.learnt ∨
      step.perform solver.learnt = solver.learnt.rescale) ∧
      (step.perform solver.learnt).tiers = solver.learnt.tiers ∧
      ∀ other, ((step.perform solver.learnt).find? other).map LearntClause.inactive =
        (solver.learnt.find? other).map LearntClause.inactive

end Solver

theorem LearntStep.not_live_of_removed {front back : List LearntStep} {key : LearntKey}
    (made : key.index < made front) : ¬ Live (front ++ remove key :: back) key := by
  induction back using List.reverseRecOn with
  | nil =>
    intro live
    rcases live_concat.mp live with ⟨allocated, _⟩ | ⟨_, kept⟩
    · cases allocated
    · exact kept rfl
  | append_singleton back last ih =>
    intro live
    rw [← List.cons_append, ← List.append_assoc] at live
    rcases live_concat.mp live with ⟨_, here⟩ | ⟨before, _⟩
    · have := made_le_append front (remove key :: back)
      omega
    · exact ih before

namespace LearntBase

open LearntStep (Live Marked)

variable {steps : List LearntStep} {base : LearntBase} {key : LearntKey}

theorem Filed.tier_unique (filed : Filed steps base) {one other : Tier}
    (inOne : key ∈ base.tierKeys one) (inOther : key ∈ base.tierKeys other) : one = other := by
  obtain ⟨found, present, here⟩ := filed.own key one inOne
  obtain ⟨held, same, there⟩ := filed.own key other inOther
  rw [← here, ← there, Option.some.inj (present.symm.trans same)]

theorem Filed.once (filed : Filed steps base) :
    (base.tierKeys .core ++ base.tierKeys .second ++ base.tierKeys .active).Nodup := by
  have apart : ∀ {one other : Tier}, one ≠ other → ∀ left ∈ base.tierKeys one,
      ∀ right ∈ base.tierKeys other, left ≠ right := by
    rintro one other different left inOne right inOther rfl
    exact different (filed.tier_unique inOne inOther)
  refine List.nodup_append.mpr ⟨List.nodup_append.mpr
    ⟨filed.nodup .core, filed.nodup .second, apart Tier.noConfusion⟩, filed.nodup .active, ?_⟩
  intro left inside right last
  rcases List.mem_append.mp inside with first | second
  · exact apart Tier.noConfusion left first right last
  · exact apart Tier.noConfusion left second right last

theorem Filed.marked_iff (filed : Filed steps base) (key : LearntKey) :
    (∃ tier, key ∈ base.tierKeys tier) ↔ Live steps key ∧ Marked steps key := by
  constructor
  · rintro ⟨tier, inside⟩
    obtain ⟨live, here⟩ := (filed.listed key tier).mp inside
    exact ⟨live, here.marked⟩
  · rintro ⟨live, marked⟩
    obtain ⟨tier, here⟩ := marked.filedIn live
    exact ⟨tier, (filed.listed key tier).mpr ⟨live, here⟩⟩

theorem Filed.find?_of_removed (filed : Filed steps base) {front back : List LearntStep}
    (split : steps = front ++ .remove key :: back) (made : key.index < LearntStep.made front) :
    base.find? key = none := by
  have dead : ¬ Live steps key := split ▸ LearntStep.not_live_of_removed made
  rw [← filed.live key, Option.isSome_iff_ne_none, not_not] at dead
  exact dead

end LearntBase

/-- What is asked of learnt clauses takes back no key. -/
theorem LearntStep.size_le_perform (base : LearntBase) (step : LearntStep) :
    base.clauses.size ≤ (step.perform base).clauses.size := by
  have kept {next : LearntBase} (same : next.contents = base.contents) :
      base.clauses.size ≤ next.clauses.size := by
    have slots := congrArg List.length same
    rw [next.length_contents, base.length_contents] at slots
    exact Nat.le_of_eq slots.symm
  cases step with
  | allocate literals distance =>
    rw [perform, LearntBase.size_allocate]
    exact Nat.le_succ _
  | markTier key tier => exact kept (base.contents_markTier key tier)
  | setTouched key conflicts => exact kept (base.contents_setTouched key conflicts)
  | bumpClause key => exact kept (base.contents_bumpClause key)
  | attach key => exact kept (base.contents_attach key)
  | decayClauses => exact kept base.contents_decayClauses
  | remove key => exact Nat.le_of_eq (base.size_remove key).symm

theorem LearntStep.size_le_performAll (base : LearntBase) (steps : List LearntStep) :
    base.clauses.size ≤ (performAll base steps).clauses.size := by
  induction steps generalizing base with
  | nil => exact Nat.le_refl _
  | cons step steps ih => exact Nat.le_trans (size_le_perform base step) (ih (step.perform base))

section

variable {σ : Type} [Store σ] (config : Config) (events : List (SolverEvent σ))

theorem SolverEvent.size_le_perform (event : SolverEvent σ) (solver : Solver) :
    solver.learnt.clauses.size ≤ (event.perform solver).learnt.clauses.size := by
  rw [event.learnt_perform]
  exact LearntStep.size_le_performAll ..

theorem Solver.filed_follow :
    ((starting config).follow events).learnt.Filed ((starting config).history events) := by
  rw [learnt_follow]
  exact LearntBase.filed_performAll (LearntBase.filed_starting config.activity) _

theorem LearntBase.Filed.wellFiled {steps : List LearntStep} {solver : Solver}
    (filed : Filed steps solver.learnt) : solver.WellFiled steps where
  fresh left _ _ := by
    rw [← filed.made] at left ⊢
    exact congrArg LearntKey.index (nextKey_of_lt left)
  stored := filed.stored
  literals key literals := by
    rw [Solver.literals?, Option.map_eq_some_iff]
    constructor
    · rintro ⟨found, present, same⟩
      exact ⟨_, (filed.stored key _ _).mp ⟨found, present, same, rfl⟩⟩
    · rintro ⟨distance, stored⟩
      obtain ⟨found, present, same, _⟩ := (filed.stored key literals distance).mpr stored
      exact ⟨found, present, same⟩
  gone front key back split made := by
    have absent := filed.find?_of_removed split made
    exact ⟨absent, by rw [Solver.literals?, absent, Option.map_none]⟩
  once := filed.once
  filed := filed.marked_iff
  tier key tier inside := ⟨((filed.listed key tier).mp inside).2, filed.own key tier inside⟩
  ordered := filed.ordered
  inert step key about absent := by
    have outcome := perform_of_absent about absent
    refine ⟨outcome, ?_⟩
    rcases outcome with same | scaled
    · rw [same]
      exact ⟨rfl, fun _ => rfl⟩
    · rw [scaled]
      exact ⟨rfl, solver.learnt.find?_rescale⟩

/-- Whatever has happened to a solver, its learnt clauses are what has been asked of them, and are
filed as this says. -/
theorem Solver.learnt_wellFiled :
    ((starting config).follow events).learnt =
        LearntStep.performAll (.starting config.activity) ((starting config).history events) ∧
      WellFiled ((starting config).history events) ((starting config).follow events) :=
  ⟨learnt_follow (starting config) events, (filed_follow config events).wellFiled⟩

end

end ClauseSharing
