import ClauseSharing.Proofs.Import.Intake
import ClauseSharing.Proofs.Import.Placement
import ClauseSharing.Proofs.Solver.Filing

/-! # Which learnt clauses watch a literal

A clause that is live and has been attached stands on the watch list of the negation of each of its
first two literals, once for each of the two, and on no other (`LearntBase.Watched`). The lists are
ordered by when the clauses were attached first. Every step keeps this, and an import attaches every
clause that it stores, as long as there are keys for them. -/

namespace ClauseSharing

namespace LearntStep

/-- Whether the clause under a key was attached while it was live. -/
def Attached (steps : List LearntStep) (key : LearntKey) : Prop :=
  Since steps (attach key) (Live · key) fun _ => False

/-- Whether one clause was attached when another had never been. -/
def AttachedBefore (steps : List LearntStep) (one other : LearntKey) : Prop :=
  ∃ front back, steps = front ++ back ∧ Attached front one ∧ ¬ Attached front other

variable {steps : List LearntStep} {last : LearntStep} {key : LearntKey}

theorem attached_concat :
    Attached (steps ++ [last]) key ↔ (last = attach key ∧ Live steps key) ∨ Attached steps key := by
  rw [Attached, since_concat, not_false_eq_true, and_true]
  rfl

theorem attached_concat_of_ne (apart : last ≠ attach key) :
    Attached (steps ++ [last]) key ↔ Attached steps key := by
  rw [attached_concat, or_iff_right fun both => apart both.1]

theorem AttachedBefore.concat {one other : LearntKey} (before : AttachedBefore steps one other) :
    AttachedBefore (steps ++ [last]) one other := by
  obtain ⟨front, back, rfl, first, second⟩ := before
  exact ⟨front, back ++ [last], List.append_assoc front back [last], first, second⟩

end LearntStep

/-- The literals whose watch lists a clause stands on. -/
def LearntClause.awaits (learnt : LearntClause) : List Literal :=
  if learnt.attached then LearntBase.watched learnt.literals else []

namespace LearntBase

open LearntStep (Live Attached AttachedBefore)

/-- The literals whose watch lists a key stands on. -/
def awaits (base : LearntBase) (key : LearntKey) : List Literal :=
  ((base.find? key).map LearntClause.awaits).getD []

theorem getD_insert_watch (watches : Std.ExtTreeMap Literal (List LearntKey))
    (changed literal : Literal) (keys : List LearntKey) :
    (watches.insert changed keys).getD literal [] =
      if literal = changed then keys else watches.getD literal [] := by
  rw [Std.ExtTreeMap.getD_insert]
  by_cases same : literal = changed
  · rw [if_pos same, if_pos (by rw [same]; exact Std.ReflCmp.compare_self)]
  · rw [if_neg same, if_neg fun equal => same (Std.LawfulEqOrd.eq_of_compare equal).symm]

/-- A key is put on a watch list as often as the literal is named. -/
theorem getD_addWatch (key : LearntKey) (literals : List Literal) (literal : Literal)
    (watches : Std.ExtTreeMap Literal (List LearntKey)) :
    (literals.foldl (addWatch key) watches).getD literal [] =
      watches.getD literal [] ++ List.replicate (literals.count literal) key := by
  induction literals generalizing watches with
  | nil => rw [List.foldl_nil, List.count_nil, List.replicate_zero, List.append_nil]
  | cons first rest ih =>
    rw [List.foldl_cons, ih, addWatch, getD_insert_watch]
    by_cases same : literal = first
    · subst same
      rw [if_pos rfl, List.count_cons_self, List.replicate_succ, List.append_assoc,
        List.singleton_append]
    · rw [if_neg same, List.count_cons_of_ne (Ne.symm same)]

/-- A key is taken off the watch lists of the literals that are named. -/
theorem getD_dropWatch (key : LearntKey) (literals : List Literal) (literal : Literal)
    (watches : Std.ExtTreeMap Literal (List LearntKey)) :
    (literals.foldl (dropWatch key) watches).getD literal [] =
      if literal ∈ literals then (watches.getD literal []).filter (· ≠ key)
      else watches.getD literal [] := by
  induction literals generalizing watches with
  | nil => rw [List.foldl_nil, if_neg List.not_mem_nil]
  | cons first rest ih =>
    rw [List.foldl_cons, ih, dropWatch, getD_insert_watch]
    by_cases same : literal = first
    · subst same
      rw [if_pos rfl, if_pos List.mem_cons_self, List.filter_filter]
      simp only [Bool.and_self, ite_self]
    · simp only [List.mem_cons, same, false_or, if_false]

/-- Whether the watch lists are as all that has been asked of learnt clauses says. -/
structure Watched (steps : List LearntStep) (base : LearntBase) : Prop where
  counted : ∀ literal key, (base.watchers literal).count key = (base.awaits key).count literal
  attached : ∀ key found, base.find? key = some found → (found.attached = true ↔ Attached steps key)
  ordered : ∀ literal,
    (base.watchers literal).Pairwise fun one other => one = other ∨ AttachedBefore steps one other

variable {steps : List LearntStep} {last : LearntStep} {base next : LearntBase} {key : LearntKey}
  {found : LearntClause}

theorem watched_starting (settings : ActivitySettings) : Watched [] (starting settings) where
  counted literal key := rfl
  attached key found present := by cases present
  ordered literal := List.Pairwise.nil

theorem awaits_of_present (present : base.find? key = some found) :
    base.awaits key = found.awaits := by
  rw [awaits, present, Option.map_some, Option.getD_some]

theorem awaits_of_absent (absent : base.find? key = none) : base.awaits key = [] := by
  rw [awaits, absent, Option.map_none, Option.getD_none]

theorem Watched.mem (watched : Watched steps base) {literal : Literal} :
    key ∈ base.watchers literal ↔ literal ∈ base.awaits key := by
  rw [← List.count_pos_iff, watched.counted, List.count_pos_iff]

/-- What stands on a watch list has been attached. -/
theorem Watched.attached_of_mem (watched : Watched steps base) {literal : Literal}
    (inside : key ∈ base.watchers literal) : Attached steps key := by
  have awaited := watched.mem.mp inside
  cases present : base.find? key with
  | none =>
    rw [awaits_of_absent present] at awaited
    cases awaited
  | some found =>
    rw [awaits_of_present present, LearntClause.awaits] at awaited
    split at awaited
    · rename_i attached
      exact (watched.attached key found present).mp attached
    · cases awaited

/-- What changes neither the watch lists nor the literals that any clause waits for keeps them. -/
theorem Watched.still (watched : Watched steps base)
    (awaits : ∀ key, next.awaits key = base.awaits key) (watches : next.watches = base.watches)
    (attached : ∀ key found, next.find? key = some found →
      (found.attached = true ↔ Attached (steps ++ [last]) key)) :
    Watched (steps ++ [last]) next where
  counted literal key := by
    rw [watchers, watches, awaits]
    exact watched.counted literal key
  attached := attached
  ordered literal := by
    rw [watchers, watches]
    exact (watched.ordered literal).imp (Or.imp_right LearntStep.AttachedBefore.concat)

/-- What is looked at of a clause when it is attached. -/
def wiring (learnt : LearntClause) : Clause × Bool := (learnt.literals, learnt.attached)

theorem awaits_of_wiring (same : (next.find? key).map wiring = (base.find? key).map wiring) :
    next.awaits key = base.awaits key := by
  let named (wired : Clause × Bool) : List Literal := if wired.2 then watched wired.1 else []
  have through (base : LearntBase) :
      (base.find? key).map LearntClause.awaits = ((base.find? key).map wiring).map named :=
    (Option.map_map named wiring (base.find? key)).symm
  rw [awaits, awaits, through, through, same]

/-- What neither stores a clause nor attaches one nor removes one is no matter. -/
theorem Watched.idle (watched : Watched steps base) (same : next.seen wiring = base.seen wiring)
    (watches : next.watches = base.watches) (unattached : ∀ key, last ≠ .attach key) :
    Watched (steps ++ [last]) next := by
  have seen := map_find?_of_seen same
  refine watched.still (fun key => awaits_of_wiring (seen key)) watches fun key found present => ?_
  have alike := seen key
  rw [present, Option.map_some] at alike
  obtain ⟨held, before, wired⟩ := Option.map_eq_some_iff.mp alike.symm
  have attached : held.attached = found.attached := congrArg Prod.snd wired
  rw [LearntStep.attached_concat_of_ne (unattached key),
    ← watched.attached key held before, attached]

theorem Watched.allocate (watched : Watched steps base)
    (made : base.clauses.size = LearntStep.made steps) (literals : Clause) (distance : Nat) :
    Watched (steps ++ [.allocate literals distance]) (base.allocate literals distance).2 := by
  refine watched.still (fun key => ?_) rfl fun key found present => ?_
  · by_cases fresh : key.index = base.clauses.size
    · have stored := find?_allocate base literals distance key
      have absent : base.find? key = none := by
        rw [find?, fresh, Array.getElem?_size]
        rfl
      rw [if_pos fresh] at stored
      rw [awaits_of_present stored, awaits_of_absent absent]
      rfl
    · rw [awaits, find?_allocate, if_neg fresh, awaits]
  · rw [LearntStep.attached_concat_of_ne LearntStep.noConfusion]
    rw [find?_allocate] at present
    by_cases fresh : key.index = base.clauses.size
    · rw [if_pos fresh] at present
      cases present
      refine iff_of_false Bool.false_ne_true fun attached => ?_
      have old : key.index < LearntStep.made steps := attached.made
      omega
    · rw [if_neg fresh] at present
      exact watched.attached key found present

theorem watchers_attach (present : base.find? key = some found)
    (unattached : ¬ found.attached = true) (literal : Literal) :
    (base.attach key).watchers literal =
      base.watchers literal ++ List.replicate ((watched found.literals).count literal) key := by
  simp only [attach, present, if_neg unattached]
  exact getD_addWatch key _ literal base.watches

/-- A clause that is attached for the first time is put on the watch lists of its literals. -/
theorem Watched.attach_first (lists : Watched steps base) (live : Live steps key)
    (present : base.find? key = some found) (unattached : ¬ found.attached = true) :
    Watched (steps ++ [.attach key]) (base.attach key) := by
  have named : Attached (steps ++ [.attach key]) key :=
    LearntStep.attached_concat.mpr (.inl ⟨rfl, live⟩)
  have unnamed : ¬ Attached steps key := mt (lists.attached key found present).mpr unattached
  have awaited : base.awaits key = [] := by
    rw [awaits_of_present present, LearntClause.awaits, if_neg unattached]
  have others {other : LearntKey} (apart : other ≠ key) :
      (base.attach key).find? other = base.find? other := by
    rw [find?_attach]
    simp only [if_neg apart, Option.map_id']
  have here : (base.attach key).find? key = some { found with attached := true } := by
    rw [find?_attach, present, Option.map_some, if_pos rfl]
  exact
    { counted := fun literal other => by
        rw [watchers_attach present unattached, List.count_append, lists.counted]
        by_cases same : other = key
        · rw [same, awaited, List.count_nil, Nat.zero_add, List.count_replicate_self,
            awaits_of_present here]
          rfl
        · rw [List.count_replicate, if_neg, Nat.add_zero, awaits, awaits, others same]
          exact fun equal => same (beq_iff_eq.mp equal).symm
      attached := fun other held found => by
        by_cases same : other = key
        · subst same
          cases here.symm.trans found
          exact iff_of_true rfl named
        · rw [others same] at found
          rw [LearntStep.attached_concat_of_ne, lists.attached other held found]
          rintro ⟨⟩
          exact same rfl
      ordered := fun literal => by
        rw [watchers_attach present unattached]
        refine List.pairwise_append.mpr ⟨?_, List.pairwise_replicate.mpr (.inr (.inl rfl)), ?_⟩
        · exact (lists.ordered literal).imp (Or.imp_right LearntStep.AttachedBefore.concat)
        · intro one inside other last
          rw [List.eq_of_mem_replicate last]
          exact .inr ⟨steps, [.attach key], rfl, lists.attached_of_mem inside, unnamed⟩ }

theorem Watched.attach (lists : Watched steps base) (filed : Filed steps base) (key : LearntKey) :
    Watched (steps ++ [.attach key]) (base.attach key) := by
  -- Where the command does nothing, what it asks for had been done, or is asked of no live clause.
  have inert (same : base.attach key = base) (done : Live steps key → Attached steps key) :
      Watched (steps ++ [.attach key]) (base.attach key) := by
    rw [same]
    refine lists.still (fun _ => rfl) rfl fun other held here => ?_
    rw [LearntStep.attached_concat, or_iff_right_of_imp, lists.attached other held here]
    rintro ⟨named, live⟩
    cases named
    exact done live
  cases present : base.find? key with
  | none =>
    refine inert (attach_of_absent present) fun live => ?_
    have found := (filed.live key).mpr live
    rw [present] at found
    cases found
  | some found =>
    by_cases attached : found.attached = true
    · refine inert ?_ fun _ => (lists.attached key found present).mp attached
      simp only [LearntBase.attach, present, if_pos attached]
    · exact lists.attach_first ((filed.live key).mp (by rw [present]; rfl)) present attached

/-- A clause that is removed is taken off every watch list. -/
theorem Watched.watchers_remove (watched : Watched steps base) (key : LearntKey)
    (literal : Literal) :
    (base.remove key).2.watchers literal = (base.watchers literal).filter (· ≠ key) := by
  have still (absent : literal ∉ base.awaits key) :
      (base.watchers literal).filter (· ≠ key) = base.watchers literal := by
    rw [List.filter_eq_self]
    intro other inside
    exact decide_eq_true (ne_of_mem_of_not_mem inside (mt watched.mem.mp absent))
  cases present : base.find? key with
  | none =>
    rw [remove_of_absent present, still]
    rw [awaits_of_absent present]
    exact List.not_mem_nil
  | some found =>
    have awaited := awaits_of_present present
    simp only [remove, present, watchers]
    by_cases attached : found.attached = true
    · rw [LearntClause.awaits, if_pos attached] at awaited
      rw [if_pos attached, getD_dropWatch]
      split
      · rfl
      · rename_i elsewhere
        exact (still (awaited ▸ elsewhere)).symm
    · rw [LearntClause.awaits, if_neg attached] at awaited
      rw [if_neg attached]
      exact (still (awaited ▸ List.not_mem_nil)).symm

theorem Watched.remove (watched : Watched steps base) (key : LearntKey) :
    Watched (steps ++ [.remove key]) (base.remove key).2 where
  counted literal other := by
    rw [watched.watchers_remove]
    by_cases same : other = key
    · subst same
      have gone := find?_remove base other other
      rw [if_pos rfl] at gone
      rw [awaits_of_absent gone, List.count_nil, List.count_eq_zero]
      exact fun inside => of_decide_eq_true (List.mem_filter.mp inside).2 rfl
    · have kept : ((base.watchers literal).filter (· ≠ key)).count other =
          (base.watchers literal).count other := List.count_filter (decide_eq_true same)
      rw [kept, watched.counted, awaits, awaits, find?_remove, if_neg same]
  attached other found present := by
    rw [LearntStep.attached_concat_of_ne LearntStep.noConfusion]
    rw [find?_remove] at present
    split at present
    · cases present
    · exact watched.attached other found present
  ordered literal := by
    rw [watched.watchers_remove]
    exact ((watched.ordered literal).filter _).imp (Or.imp_right LearntStep.AttachedBefore.concat)

/-- Every step keeps the watch lists. -/
theorem Watched.perform (lists : Watched steps base) (filed : Filed steps base)
    (step : LearntStep) :
    Watched (steps ++ [step]) (step.perform base) := by
  cases step with
  | allocate literals distance => exact lists.allocate filed.made literals distance
  | attach key => exact lists.attach filed key
  | remove key => exact lists.remove key
  | markTier key tier =>
    exact lists.idle (seen_markTier (fun _ _ => rfl) base key tier) (base.watches_markTier key tier)
      fun _ => LearntStep.noConfusion
  | setTouched key conflicts =>
    exact lists.idle (seen_setTouched (fun _ _ => rfl) base key conflicts)
      (base.watches_setTouched key conflicts) fun _ => LearntStep.noConfusion
  | bumpClause key =>
    exact lists.idle (seen_bumpClause (fun _ _ => rfl) base key) (base.watches_bumpClause key)
      fun _ => LearntStep.noConfusion
  | decayClauses =>
    exact lists.idle (seen_decayClauses (fun _ _ => rfl) base) base.watches_decayClauses
      fun _ => LearntStep.noConfusion

theorem watched_performAll (lists : Watched [] base) (filed : Filed [] base)
    (steps : List LearntStep) : Watched steps (LearntStep.performAll base steps) := by
  induction steps using List.reverseRecOn with
  | nil => exact lists
  | append_singleton steps step ih =>
    rw [LearntStep.performAll_concat]
    exact ih.perform (filed_performAll filed steps) step

/-- How often a literal is among those that a clause waits for. -/
theorem count_watched (literals : Clause) (literal : Literal) :
    (watched literals).count literal = (literals.take 2).countP fun each =>
      each.negate = literal := by
  rw [watched, List.count, List.countP_map]
  rfl

/-- Whether the clauses stored behind some are all attached, and of two literals or more, unless
there are more clauses than keys. -/
def WiredBehind (start : Nat) (base : LearntBase) : Prop :=
  base.clauses.size ≤ keyCount → ∀ key : LearntKey, start ≤ key.index →
    key.index < base.clauses.size →
    ∃ clause : Clause, 2 ≤ clause.length ∧ (base.find? key).map wiring = some (clause, true)

theorem map_wiring_attach (base : LearntBase) (key other : LearntKey) :
    ((base.attach key).find? other).map wiring =
      if other = key then (base.find? other).map fun found => (found.literals, true)
      else (base.find? other).map wiring := by
  rw [find?_attach]
  cases base.find? other with
  | none => split <;> rfl
  | some found =>
    by_cases same : other = key
    · simp only [same, if_true, Option.map_some]
      rfl
    · simp only [same, if_false, Option.map_some]

/-- A clause that is stored, put in its tier and attached is so behind all others. -/
theorem WiredBehind.attach {start : Nat} (wired : WiredBehind start base) {entered : LearntBase}
    (literals : Clause) (distance : Nat) (plural : 2 ≤ literals.length)
    (same : entered.seen wiring = (base.allocate literals distance).2.seen wiring) :
    WiredBehind start (entered.attach base.nextKey).decayClauses := by
  have slots : entered.clauses.size = base.clauses.size + 1 := by
    rw [← length_seen wiring, same, length_seen, size_allocate]
  have decayed (attached : LearntBase) : attached.decayClauses.seen wiring = attached.seen wiring :=
    seen_decayClauses (fun _ _ => rfl) attached
  intro left key behind made
  rw [← length_seen wiring, decayed, length_seen, size_attach, slots] at left made
  rw [map_find?_of_seen (decayed _), map_wiring_attach, nextKey_of_lt left]
  have seen := map_find?_of_seen same key
  rw [find?_allocate] at seen
  split
  · rename_i last
    rw [last, if_pos rfl] at seen
    rw [last]
    obtain ⟨found, present, alike⟩ := Option.map_eq_some_iff.mp seen
    have held : found.literals = literals := congrArg Prod.fst alike
    exact ⟨literals, plural, by rw [present, Option.map_some, held]⟩
  · rename_i apart
    have old : key.index ≠ base.clauses.size := fun index => apart (LearntKey.ext index)
    rw [if_neg old] at seen
    rw [seen]
    exact wired (Nat.le_of_lt left) key behind (by omega)

end LearntBase

namespace ImportProgress

open LearntBase (WiredBehind wiring)

variable {σ : Type}

theorem learnt_integrateUnit (progress : ImportProgress (World σ Solver)) (literal : Literal) :
    (progress.integrateUnit literal).world.host.learnt = progress.world.host.learnt := by
  unfold integrateUnit
  split
  · rfl
  · split <;> rfl

theorem learnt_settle (key : LearntKey) (world : World σ Solver) :
    (settle key world).host.learnt = (world.host.learnt.attach key).decayClauses := by
  unfold settle
  dsimp only
  split <;> rfl

theorem wiring_enterTier (key : LearntKey) (tier : Tier) (world : World σ Solver) :
    (enterTier key tier world).host.learnt.seen wiring = world.host.learnt.seen wiring := by
  cases tier with
  | core => rfl
  | second => exact LearntBase.seen_setTouched (fun _ _ => rfl) _ key _
  | active => exact LearntBase.seen_bumpClause (fun _ _ => rfl) _ key

variable {settings : TierSettings} {start : Nat}

theorem wiredBehind_integrateClause (progress : ImportProgress (World σ Solver)) {clause : Clause}
    (plural : 2 ≤ clause.length) (wired : WiredBehind start progress.world.host.learnt) :
    WiredBehind start (progress.integrateClause settings clause).world.host.learnt := by
  rw [world_integrateClause, learnt_settle]
  refine wired.attach clause clause.distance plural ?_
  rw [wiring_enterTier, noteCopy_eq]
  exact LearntBase.seen_markTier (fun _ _ => rfl) _ _ _

theorem wiredBehind_integrate (progress : ImportProgress (World σ Solver)) (clause : Clause)
    (wired : WiredBehind start progress.world.host.learnt) :
    WiredBehind start (progress.integrate settings clause).2.world.host.learnt := by
  have told : WiredBehind start (recordDistance clause progress.world).host.learnt := by
    rw [learnt_recordDistance]
    exact wired
  match clause with
  | [] => exact told
  | [literal] =>
    rw [integrate, learnt_integrateUnit]
    exact told
  | first :: second :: rest =>
    exact wiredBehind_integrateClause _ (Nat.le_add_left 2 rest.length) told

end ImportProgress

/-- An import attaches every clause that it stores. -/
theorem Peer.wiredBehind_importInbox {σ : Type} [Store σ] (peer : Peer LearntKey)
    (world : World σ Solver) : LearntBase.WiredBehind world.host.learnt.clauses.size
      (peer.importInbox world).2.2.host.learnt := by
  have start : LearntBase.WiredBehind world.host.learnt.clauses.size world.host.learnt :=
    fun _ key behind made => absurd made (Nat.not_lt.mpr behind)
  rcases peer.importInbox_untaken_or_taken world with
    ⟨reason, last, host, reached⟩ | ⟨records, popped, host, _, reached⟩
  · rw [reached, host]
    exact start
  · rw [reached]
    exact ImportProgress.integrateRecords_induction
      (motive := fun progress : ImportProgress (World σ Solver) =>
        LearntBase.WiredBehind world.host.learnt.clauses.size progress.world.host.learnt)
      ImportProgress.wiredBehind_integrate (fun _ _ kept => kept) records (host ▸ start)

namespace Solver

open LearntStep (Stored Live Attached AttachedBefore)

/-- Whether the watch lists of a solver are as all that has been asked of its learnt clauses
says. -/
structure WellWatched (steps : List LearntStep) (solver : Solver) : Prop where
  /-- A live clause that was attached stands on the watch list of the negation of each of its first
  two literals, once for each. -/
  counted : ∀ key literals distance, Stored steps key literals distance → Attached steps key →
    ∀ literal, (solver.learnt.watchers literal).count key =
      (literals.take 2).countP fun each => each.negate = literal
  /-- No other clause stands on any. -/
  uncounted : ∀ key, ¬ (Live steps key ∧ Attached steps key) →
    ∀ literal, (solver.learnt.watchers literal).count key = 0
  /-- A clause is attached if it was attached while it was live, however often. -/
  attached : ∀ key found, solver.learnt.find? key = some found →
    (found.attached = true ↔ Attached steps key)
  /-- Keys stand in the order in which their clauses were first attached. -/
  ordered : ∀ literal, (solver.learnt.watchers literal).Pairwise
    fun one other => one = other ∨ AttachedBefore steps one other
  /-- A clause that is removed is taken off every watch list, and nothing else is. -/
  removed : ∀ key literal, (solver.remove key).2.learnt.watchers literal =
    (solver.learnt.watchers literal).filter (· ≠ key)

end Solver

namespace LearntBase

variable {steps : List LearntStep} {base : LearntBase}

theorem Watched.wellWatched {solver : Solver} (lists : Watched steps solver.learnt)
    (filed : Filed steps solver.learnt) : solver.WellWatched steps where
  counted key literals distance stored attached literal := by
    obtain ⟨found, present, same, _⟩ := (filed.stored key literals distance).mpr stored
    rw [lists.counted, awaits_of_present present, LearntClause.awaits,
      if_pos ((lists.attached key found present).mpr attached), same, count_watched]
  uncounted key idle literal := by
    rw [List.count_eq_zero]
    intro inside
    refine idle ⟨?_, lists.attached_of_mem inside⟩
    rw [← filed.live, Option.isSome_iff_ne_none]
    intro absent
    have awaited := lists.mem.mp inside
    rw [awaits_of_absent absent] at awaited
    cases awaited
  attached := lists.attached
  ordered := lists.ordered
  removed key literal := lists.watchers_remove key literal

end LearntBase

section

variable {σ : Type} [Store σ] (config : Config) (events : List (SolverEvent σ))

theorem Solver.watched_follow :
    ((starting config).follow events).learnt.Watched ((starting config).history events) := by
  rw [learnt_follow]
  exact LearntBase.watched_performAll (LearntBase.watched_starting config.activity)
    (LearntBase.filed_starting config.activity) _

/-- Whether every clause that an import stores stands on the watch list of the negation of each of
its first two literals, once for each, and on no other. This is said of imports that store no more
clauses than there are keys: the next one would get the key of the first clause of all, which would
be attached in its place. -/
def Solver.WatchesImported (solver : Solver) (peer : Peer LearntKey) (store : σ) : Prop :=
  let after := (SolverEvent.importInbox peer store).perform solver
  after.learnt.clauses.size ≤ LearntBase.keyCount → ∀ key : LearntKey,
    solver.learnt.clauses.size ≤ key.index → key.index < after.learnt.clauses.size →
    ∃ literals, after.literals? key = some literals ∧ 2 ≤ literals.length ∧
      ∀ literal, (after.learnt.watchers literal).count key =
        (literals.take 2).countP fun each => each.negate = literal

/-- Whatever has happened to a solver, its watch lists are as all that was asked of its learnt
clauses says, and so are those of the clauses that the next import stores. -/
theorem Solver.learnt_wellWatched :
    ((starting config).follow events).learnt =
        LearntStep.performAll (.starting config.activity) ((starting config).history events) ∧
      WellWatched ((starting config).history events) ((starting config).follow events) ∧
      ∀ (peer : Peer LearntKey) (store : σ),
        ((starting config).follow events).WatchesImported peer store := by
  refine ⟨learnt_follow (starting config) events,
    (watched_follow config events).wellWatched (filed_follow config events), ?_⟩
  intro peer store left key behind made
  let world : World σ Solver := ⟨store, (starting config).follow events⟩
  obtain ⟨literals, plural, wired⟩ := peer.wiredBehind_importInbox world left key behind made
  have lists := watched_follow config (events ++ [.importInbox peer store])
  rw [follow_append] at lists
  change (peer.importInbox world).2.2.host.learnt.Watched _ at lists
  obtain ⟨found, present, alike⟩ := Option.map_eq_some_iff.mp wired
  have held : found.literals = literals := congrArg Prod.fst alike
  have attached : found.attached = true := congrArg Prod.snd alike
  refine ⟨literals, ?_, plural, fun literal => ?_⟩
  · rw [literals?, ← held]
    exact congrArg (Option.map LearntClause.literals) present
  · rw [← LearntBase.count_watched, ← held]
    refine (lists.counted literal key).trans ?_
    rw [LearntBase.awaits_of_present present, LearntClause.awaits, if_pos attached]

end

end ClauseSharing
