import ClauseSharing.Proofs.Import.Meaning
import ClauseSharing.Proofs.Import.Totals
import ClauseSharing.Proofs.Import.Units
import ClauseSharing.Proofs.Solver.Copies

/-! # Records in another order

In which order the records of peers arrive decides which of two equal units is useful, at which of
two opposed ones a contradiction is met, and which copy of a clause goes to a better tier. It does
not decide whether a contradiction is met, and without one the solver comes to know the same and the
totals are the same (`Peer.importInbox_reordered`). Whether one is met depends on which units there
are and not on their order (`ImportProgress.Stops.verdict`). Of two clauses that follow each other
the copies are counted, and announced under each set of literals, as of the same two the other way
round (`ImportProgress.Alike.swap`), and so they are of any clauses in any order
(`ImportProgress.Alike.of_perm`). -/

namespace ClauseSharing

namespace CopyCounts

/-- The count of a set with one more copy. -/
def raisedCount (cap : Nat) : Option Nat → Nat
  | none => 1
  | some seen => if seen < cap then seen + 1 else seen

/-- What one more copy of a set announces. -/
def announcedCount (cap : Nat) : Option Nat → Nat
  | none => 0
  | some seen => raisedCount cap (some seen)

theorem note_eq (copies : CopyCounts) (key : LiteralSet) :
    copies.note key = (announcedCount copies.cap copies.counts[key.ints]?,
      { copies with
        counts :=
          copies.counts.insert key.ints (raisedCount copies.cap copies.counts[key.ints]?) }) := by
  rw [note]
  cases copies.counts[key.ints]? <;> rfl

theorem getElem?_counts_note (copies : CopyCounts) {key other : LiteralSet} (apart : key ≠ other) :
    (copies.note key).2.counts[other.ints]? = copies.counts[other.ints]? := by
  have differs : key.ints ≠ other.ints := fun same => apart (LiteralSet.ext same)
  rw [note_eq, Std.ExtTreeMap.getElem?_insert,
    if_neg fun same => differs (Std.LawfulEqOrd.eq_of_compare same)]

/-- Copies of one set bear on no other one. -/
theorem fst_note_note (copies : CopyCounts) {key other : LiteralSet} (apart : key ≠ other) :
    ((copies.note key).2.note other).1 = (copies.note other).1 := by
  rw [note_eq _ other, note_eq copies other, getElem?_counts_note copies apart, cap_note]

theorem snd_note_note (copies : CopyCounts) {key other : LiteralSet} (apart : key ≠ other) :
    ((copies.note key).2.note other).2 =
      { copies with
        counts :=
          (copies.counts.insert key.ints (raisedCount copies.cap copies.counts[key.ints]?)).insert
            other.ints (raisedCount copies.cap copies.counts[other.ints]?) } := by
  rw [note_eq (copies.note key).2 other, getElem?_counts_note copies apart,
    cap_note, note_eq copies key]

/-- It is no matter of which of two sets a copy is noted first. -/
theorem note_comm (copies : CopyCounts) (key other : LiteralSet) :
    ((copies.note key).2.note other).2 = ((copies.note other).2.note key).2 := by
  by_cases same : key = other
  · rw [same]
  have differs : key.ints ≠ other.ints := fun equal => same (LiteralSet.ext equal)
  rw [snd_note_note copies same, snd_note_note copies (Ne.symm same)]
  refine congrArg (fun counts => ({ counts, cap := copies.cap } : CopyCounts)) ?_
  apply Std.ExtTreeMap.ext_getElem?
  intro ints
  simp only [Std.ExtTreeMap.getElem?_insert, Std.LawfulEqCmp.compare_eq_iff_eq]
  by_cases here : other.ints = ints
  · rw [if_pos here, if_pos here, if_neg fun there => differs (there.trans here.symm)]
  · rw [if_neg here, if_neg here]

end CopyCounts

/-- A clause that repeats no literal has as many as its set. -/
theorem LiteralSet.length_ofClause {clause : Clause} (distinct : clause.Nodup) :
    (LiteralSet.ofClause clause).ints.length = clause.length := by
  have perm : (LiteralSet.ofClause clause).ints.Perm (clause.map Literal.toInt) := by
    apply (List.perm_ext_iff_of_nodup (pairwise_ofClause clause).nodup
      (distinct.map Literal.toInt_injective)).mpr
    intro int
    rw [mem_ofClause, List.mem_map]
  rw [perm.length_eq, List.length_map]

namespace ImportProgress

variable {settings : TierSettings}

section

variable {one other : Clause}

theorem sighted_comm (copies : CopyCounts) :
    (sighted settings other (sighted settings one copies).2).2 =
      (sighted settings one (sighted settings other copies).2).2 := by
  unfold sighted
  split <;> split
  · exact copies.note_comm _ _
  · rfl
  · rfl
  · rfl

/-- What is announced of a clause depends on another one only where the two are counted as copies of
each other. -/
theorem fst_sighted_sighted (copies : CopyCounts)
    (apart : ¬(Counts settings one ∧ Counts settings other ∧
      LiteralSet.ofClause one = .ofClause other)) :
    (sighted settings other (sighted settings one copies).2).1 =
      (sighted settings other copies).1 := by
  unfold sighted
  split
  · rename_i also
    split
    · rename_i counts
      exact copies.fst_note_note fun same => apart ⟨counts, also, same⟩
    · rfl
  · rfl

end

/-- The literals of each clause of two literals or more with what is announced of its copies. -/
def announcedSets (settings : TierSettings) (copies : CopyCounts) (clauses : List Clause) :
    List (LiteralSet × Nat) :=
  (announcements settings copies clauses).map (Prod.map LiteralSet.ofClause id)

theorem announcedSets_append (copies : CopyCounts) (front back : List Clause) :
    announcedSets settings copies (front ++ back) =
      announcedSets settings copies front ++
        announcedSets settings (copiesAfter settings copies front) back := by
  rw [announcedSets, announcements_append, List.map_append]
  rfl

theorem announcedSets_pair (copies : CopyCounts) {one other : Clause} (first : 2 ≤ one.length)
    (second : 2 ≤ other.length) :
    announcedSets settings copies [one, other] =
      [(.ofClause one, (sighted settings one copies).1),
        (.ofClause other, (sighted settings other (sighted settings one copies).2).1)] := by
  rw [announcedSets, announcements, if_pos first]
  dsimp only
  rw [announcements_singleton _ _ second]
  rfl

/-- The tier of a clause that repeats no literal follows from the set of its literals. -/
theorem tierOfCopies_eq {announced : Clause × Nat} (distinct : announced.1.Nodup) :
    tierOfCopies settings announced =
      .classify settings (min (LiteralSet.ofClause announced.1).ints.length Clause.maxDistance)
        announced.2 := by
  rw [LiteralSet.length_ofClause distinct]
  rfl

theorem countP_announcedSets {clauses : List Clause} (distinct : ∀ clause ∈ clauses, clause.Nodup)
    (copies : CopyCounts) (tier : Tier) :
    (announcements settings copies clauses).countP (tierOfCopies settings · = tier) =
      (announcedSets settings copies clauses).countP fun announced =>
        Tier.classify settings (min announced.1.ints.length Clause.maxDistance) announced.2 =
          tier := by
  rw [announcedSets, List.countP_map]
  apply List.countP_congr
  intro announced inside
  have among : announced.1 ∈ clauses := by
    have first := List.mem_map_of_mem (f := Prod.fst) inside
    rw [map_fst_announcements] at first
    exact List.mem_of_mem_filter first
  rw [decide_eq_true_eq, Function.comp_apply, decide_eq_true_eq, tierOfCopies_eq (distinct _ among)]
  rfl

/-- Whether two lists of clauses come to the same counts of copies, and announce the same numbers
under each set of literals. -/
structure Alike (settings : TierSettings) (copies : CopyCounts)
    (clauses others : List Clause) : Prop where
  sets : (announcedSets settings copies clauses).Perm (announcedSets settings copies others)
  after : copiesAfter settings copies clauses = copiesAfter settings copies others

namespace Alike

variable {copies : CopyCounts} {first second third : List Clause}

theorem refl (clauses : List Clause) : Alike settings copies clauses clauses := ⟨.refl _, rfl⟩

theorem trans (one : Alike settings copies first second)
    (other : Alike settings copies second third) :
    Alike settings copies first third :=
  ⟨one.sets.trans other.sets, one.after.trans other.after⟩

theorem append (alike : Alike settings copies first second) (back : List Clause) :
    Alike settings copies (first ++ back) (second ++ back) where
  sets := by
    rw [announcedSets_append, announcedSets_append, alike.after]
    exact alike.sets.append_right _
  after := by rw [copiesAfter_append, copiesAfter_append, alike.after]

theorem behind (front : List Clause)
    (alike : Alike settings (copiesAfter settings copies front) first second) :
    Alike settings copies (front ++ first) (front ++ second) where
  sets := by
    rw [announcedSets_append, announcedSets_append]
    exact alike.sets.append_left _
  after := by rw [copiesAfter_append, copiesAfter_append, alike.after]

/-- Of two clauses it is no matter which comes first. -/
theorem swap (copies : CopyCounts) (one other : Clause) :
    Alike settings copies [one, other] [other, one] := by
  by_cases both : 2 ≤ one.length ∧ 2 ≤ other.length
  · obtain ⟨first, second⟩ := both
    refine ⟨?_, ?_⟩
    · rw [announcedSets_pair copies first second, announcedSets_pair copies second first]
      by_cases copy :
          Counts settings one ∧ Counts settings other ∧ LiteralSet.ofClause one = .ofClause other
      · -- Of two copies it is the earlier one that is announced as the first, whichever it is.
        obtain ⟨counts, also, same⟩ := copy
        have alike (copies : CopyCounts) :
            sighted settings one copies = sighted settings other copies := by
          rw [sighted, sighted, if_pos counts, if_pos also, same]
        rw [alike, same, alike]
      · have turned : ¬(Counts settings other ∧ Counts settings one ∧
            LiteralSet.ofClause other = .ofClause one) :=
          fun ⟨also, counts, same⟩ => copy ⟨counts, also, same.symm⟩
        rw [fst_sighted_sighted copies copy, fst_sighted_sighted copies turned]
        exact .swap ..
    · simp only [copiesAfter, if_pos first, if_pos second]
      exact sighted_comm copies
  · -- A clause of fewer than two literals is neither announced nor counted.
    rcases Decidable.not_and_iff_not_or_not.mp both with short | short
    · refine ⟨.of_eq ?_, ?_⟩
      · simp only [announcedSets, announcements, if_neg short]
      · simp only [copiesAfter, if_neg short]
    · refine ⟨.of_eq ?_, ?_⟩
      · simp only [announcedSets, announcements, if_neg short]
      · simp only [copiesAfter, if_neg short]

/-- In whatever order clauses come, they come to the same. -/
theorem of_perm {clauses shuffled : List Clause} (perm : clauses.Perm shuffled)
    (copies : CopyCounts) :
    Alike settings copies clauses shuffled := by
  induction perm generalizing copies with
  | nil => exact .refl []
  | cons clause _ ih => exact .behind [clause] (ih _)
  | swap one other clauses => exact (swap copies other one).append clauses
  | trans _ _ one other => exact (one copies).trans (other copies)

/-- As many copies lift their clause to the second tier. -/
theorem lifted (alike : Alike settings copies first second) :
    (announcements settings copies first).countP (·.2 = settings.minCopies.value.toNat) =
      (announcements settings copies second).countP (·.2 = settings.minCopies.value.toNat) := by
  have counted := alike.sets.countP_eq fun announced => announced.2 = settings.minCopies.value.toNat
  rw [announcedSets, announcedSets, List.countP_map, List.countP_map] at counted
  exact counted

/-- Where no clause repeats a literal, each tier gets as many clauses. -/
theorem tiers (alike : Alike settings copies first second)
    (distinct : ∀ clause ∈ first, clause.Nodup)
    (also : ∀ clause ∈ second, clause.Nodup) (tier : Tier) :
    (announcements settings copies first).countP (tierOfCopies settings · = tier) =
      (announcements settings copies second).countP (tierOfCopies settings · = tier) := by
  rw [countP_announcedSets distinct, countP_announcedSets also]
  exact alike.sets.countP_eq _

end Alike

end ImportProgress

/-- Whether no unit of these clauses is against the value of its atom, and no two units are against
each other. -/
def Assignment.Accords (assignment : Assignment) (clauses : List Clause) : Prop :=
  ∀ literal : Literal, [literal] ∈ clauses →
    assignment.value? literal.atom ≠ some (!literal.positive) ∧ [literal.negate] ∉ clauses

theorem Assignment.accords_perm {assignment : Assignment} {clauses shuffled : List Clause}
    (perm : clauses.Perm shuffled) : assignment.Accords clauses ↔ assignment.Accords shuffled := by
  simp only [Accords, perm.mem_iff]

namespace ImportProgress

variable {σ : Type} {settings : TierSettings} {world last : World σ Solver} {records : List String}
  {clauses : List Clause}

/-- What is told of a clause changes no value, so a unit is measured by the values as they are. -/
theorem opposes_iff {literal : Literal} :
    Opposes world [literal] ↔ world.host.assignment.value? literal.atom =
      some (!literal.positive) := by
  apply opposes_iff_of_keepsValues
  intro distance atom world
  rfl

/-- After clauses that are taken in, an atom has the value that it had, or that a unit gives it. -/
theorem Admits.value?_worldAfter (admits : Admits settings world records clauses) (atom : Atom)
    (value : Bool) :
    (worldAfter settings clauses world).host.assignment.value? atom = some value ↔
      world.host.assignment.value? atom = some value ∨ [⟨atom, value⟩] ∈ clauses := by
  induction admits with
  | none =>
    refine ⟨.inl, fun held => held.elim id fun inside => ?_⟩
    exact absurd inside List.not_mem_nil
  | @more world record records clause clauses read unoffending _ ih =>
    have nonempty : clause ≠ [] := fun none => unoffending (.empty (none ▸ read))
    have valued : (effect settings clause world).host.assignment.value? atom =
        (world.host.knowledge.absorb clause).value? atom :=
      congrArg (·.value? atom) (knowledge_effect settings nonempty world)
    refine ih.trans ?_
    rw [valued, List.mem_cons, ← or_assoc]
    refine or_congr_left ?_
    match clause, nonempty with
    | [literal], _ =>
      have unopposed : ¬world.host.knowledge.Opposes [literal] := fun against =>
        unoffending (.opposed read (opposes_iff.mpr (Knowledge.opposes_singleton.mp against)))
      rw [Knowledge.value?_absorb_unit unopposed, List.singleton_inj]
      rfl
    | first :: second :: rest, _ =>
      refine ⟨.inl, fun held => held.elim id fun same => ?_⟩
      exact nomatch same

theorem Admits.accords (admits : Admits settings world records clauses) :
    world.host.assignment.Accords clauses := by
  intro literal inside
  have holds := (admits.value?_worldAfter literal.atom literal.positive).mpr (.inr inside)
  have clear : ¬(worldAfter settings clauses world).host.assignment.value? literal.atom =
      some (!literal.positive) := by
    rw [holds]
    exact fun same => Bool.not_ne_self _ (Option.some.inj same).symm
  constructor
  · exact fun against => clear ((admits.value?_worldAfter _ _).mpr (.inl against))
  · exact fun against => clear ((admits.value?_worldAfter _ _).mpr (.inr against))

/-- Records that hold clauses are all taken in where these agree with the values and with each
other, and come to a contradiction where they do not. -/
theorem Stops.verdict {earlier later : List String} {front : List Clause} {ending : Ending}
    (stops : Stops settings world records earlier front later ending last)
    (decoded : records.map Record.decode = clauses.map Except.ok)
    (nonempty : ∀ clause ∈ clauses, clause ≠ []) :
    (world.host.assignment.Accords clauses ∧ ending = .complete ∧ front = clauses ∧
        Admits settings world records clauses ∧ last = worldAfter settings clauses world) ∨
      ¬world.host.assignment.Accords clauses ∧ ∃ left, ending = .contradicted left := by
  obtain ⟨rfl, admits, ends⟩ := stops
  rw [List.map_append, admits.decoded] at decoded
  obtain ⟨taken, rest, rfl, same, read⟩ := List.map_eq_append_iff.mp decoded.symm
  obtain rfl : taken = front := List.map_injective_iff.mpr (fun _ _ => Except.ok.inj) same
  cases ends with
  | complete =>
    obtain rfl := List.map_eq_nil_iff.mp read
    rw [List.append_nil, List.append_nil]
    exact .inl ⟨admits.accords, rfl, rfl, admits, rfl⟩
  | unreadable failed =>
    obtain ⟨clause, _, rfl, found, -⟩ := List.map_eq_cons_iff.mp read
    rw [failed] at found
    cases found
  | empty none =>
    obtain ⟨clause, _, rfl, found, -⟩ := List.map_eq_cons_iff.mp read
    rw [none] at found
    cases found
    exact absurd rfl (nonempty [] (List.mem_append_right _ (List.mem_cons_self ..)))
  | @opposed _ later literal found against =>
    obtain ⟨clause, _, rfl, again, -⟩ := List.map_eq_cons_iff.mp read
    rw [found] at again
    cases again
    refine .inr ⟨fun accords => ?_, _, rfl⟩
    obtain ⟨unvalued, unmet⟩ := accords literal (List.mem_append_right _ (List.mem_cons_self ..))
    -- The unit is against a value of before, or against a unit among what has been taken in.
    rcases (admits.value?_worldAfter _ _).mp (opposes_iff.mp against) with valued | met
    · exact unvalued valued
    · exact unmet (List.mem_append_left _ met)

/-- What clauses come to that agree with the values of a solver. -/
structure TakenIn (settings : TierSettings) (before after : Solver)
    (clauses : List Clause) (gain : Tally) :
    Prop extends Totals settings before after clauses gain where
  known : ∀ atom value, after.assignment.value? atom = some value ↔
    before.assignment.value? atom = some value ∨ [⟨atom, value⟩] ∈ clauses

end ImportProgress

/-- Whether two imports into one solver, with what they report and count, came to the same but for
the order in which clauses are learnt and for which of them is in which tier. -/
structure Interchangeable (before : Solver) (report told : ImportReport) (tally counted : Tally)
    (after other : Solver) : Prop where
  value? : ∀ atom, after.assignment.value? atom = other.assignment.value? atom
  useful : report.useful = told.useful
  redundant : report.redundant = told.redundant
  learnt : ((before.placedSince after).map Prod.fst).Perm ((before.placedSince other).map Prod.fst)
  copies : after.copies = other.copies
  lifted : tally.copiesLifted = counted.copiesLifted
  recorded : after.branching.recorded = other.branching.recorded
  distanceSum : after.branching.distanceSum = other.branching.distanceSum

namespace ImportProgress.TakenIn

variable {settings : TierSettings} {before after other : Solver} {clauses shuffled : List Clause}
  {gain more : Tally}

theorem value?_eq (taken : TakenIn settings before after clauses gain)
    (again : TakenIn settings before other shuffled more)
    (perm : clauses.Perm shuffled) (atom : Atom) :
    after.assignment.value? atom = other.assignment.value? atom := by
  apply Option.ext
  intro value
  rw [taken.known, again.known, perm.mem_iff]

/-- As many units are useful, since in the end the same atoms have a value. -/
theorem useful_eq (taken : TakenIn settings before after clauses gain)
    (again : TakenIn settings before other shuffled more) (perm : clauses.Perm shuffled) :
    gain.unitsUseful = more.unitsUseful := by
  have values : after.assignment.values = other.assignment.values :=
    Std.ExtTreeMap.ext_getElem? (taken.value?_eq again perm)
  have first := taken.values
  have second := again.values
  rw [values] at first
  omega

theorem redundant_eq (taken : TakenIn settings before after clauses gain)
    (again : TakenIn settings before other shuffled more) (perm : clauses.Perm shuffled) :
    gain.unitsRedundant = more.unitsRedundant := by
  have useful := taken.useful_eq again perm
  have first := taken.units
  have second := again.units
  rw [perm.countP_eq] at first
  omega

theorem learnt_perm (taken : TakenIn settings before after clauses gain)
    (again : TakenIn settings before other shuffled more) (perm : clauses.Perm shuffled) :
    ((before.placedSince after).map Prod.fst).Perm ((before.placedSince other).map Prod.fst) := by
  rw [Solver.map_fst_placedSince taken.contents, Solver.map_fst_placedSince again.contents]
  exact perm.filter _

theorem branching_eq (taken : TakenIn settings before after clauses gain)
    (again : TakenIn settings before other shuffled more) (perm : clauses.Perm shuffled) :
    after.branching.recorded = other.branching.recorded ∧
      after.branching.distanceSum = other.branching.distanceSum := by
  let distances (clauses : List Clause) : List Nat :=
    if before.branching.adaptive then clauses.map Clause.distance else []
  have permuted : (distances clauses).Perm (distances shuffled) := by
    dsimp only [distances]
    split
    · exact perm.map _
    · exact .nil
  have one : after.branching.unweighted = before.branching.unweighted.recordAll
      (distances clauses) :=
    taken.branching
  have two : other.branching.unweighted = before.branching.unweighted.recordAll
      (distances shuffled) :=
    again.branching
  constructor
  · change after.branching.unweighted.recorded = other.branching.unweighted.recorded
    rw [one, two, Branching.recorded_recordAll, Branching.recorded_recordAll, permuted.length_eq]
  · change after.branching.unweighted.distanceSum = other.branching.unweighted.distanceSum
    rw [one, two, Branching.distanceSum_recordAll, Branching.distanceSum_recordAll]
    apply permuted.foldl_eq'
    intro one _ two _ sum
    exact Nat.add_right_comm ..

theorem inTier_eq (taken : TakenIn settings before after clauses gain)
    (again : TakenIn settings before other shuffled more) (perm : clauses.Perm shuffled)
    (distinct : ∀ clause ∈ clauses, clause.Nodup) (tier : Tier) :
    gain.inTier tier = more.inTier tier := by
  rw [taken.tiers, again.tiers]
  exact (Alike.of_perm perm before.copies).tiers distinct
    (fun clause inside => distinct clause (perm.mem_iff.mpr inside)) tier

theorem interchangeable (taken : TakenIn settings before after clauses gain)
    (again : TakenIn settings before other shuffled more) (perm : clauses.Perm shuffled)
    (start : ImportReport) (tally : Tally) :
    Interchangeable before (start.plus gain) (start.plus more) (tally + gain)
      (tally + more) after other where
  value? := taken.value?_eq again perm
  useful := congrArg (start.useful + ·) (taken.useful_eq again perm)
  redundant := congrArg (start.redundant + ·) (taken.redundant_eq again perm)
  learnt := taken.learnt_perm again perm
  copies := by rw [taken.copies, again.copies, (Alike.of_perm perm before.copies).after]
  lifted := by
    refine congrArg (tally.copiesLifted + ·) ?_
    rw [taken.lifted, again.lifted, (Alike.of_perm perm before.copies).lifted]
  recorded := (taken.branching_eq again perm).1
  distanceSum := (taken.branching_eq again perm).2

end ImportProgress.TakenIn

namespace Record

/-- Records that hold clauses which are not empty hold a list of them. -/
theorem exists_decoded {records : List String} (reads : ∀ record ∈ records, Reads record) :
    ∃ clauses : List Clause,
      records.map decode = clauses.map Except.ok ∧ ∀ clause ∈ clauses, clause ≠ [] := by
  induction records with
  | nil => exact ⟨[], rfl, fun _ inside => absurd inside List.not_mem_nil⟩
  | cons record records ih =>
    obtain ⟨⟨clause, read, nonempty⟩, others⟩ := List.forall_mem_cons.mp reads
    obtain ⟨clauses, decoded, rest⟩ := ih others
    refine ⟨clause :: clauses, ?_, List.forall_mem_cons.mpr ⟨nonempty, rest⟩⟩
    rw [List.map_cons, List.map_cons, read, decoded]

theorem exists_of_mem_decoded {records : List String} {clauses : List Clause}
    (decoded : records.map decode = clauses.map Except.ok) {clause : Clause}
    (inside : clause ∈ clauses) :
    ∃ record ∈ records, decode record = .ok clause := by
  have held : (Except.ok clause : Except ReadError Clause) ∈ records.map decode := by
    rw [decoded]
    exact List.mem_map_of_mem inside
  exact List.mem_map.mp held

end Record

namespace Peer

open ImportProgress

variable {σ τ : Type} [Store σ] [Store τ] {peer : Peer LearntKey} {solver : Solver}

/-- An import of records that hold clauses returns a report, which is of a contradiction unless the
clauses agree with the values and with each other. -/
theorem importInbox_of_reads {records : List String} {clauses : List Clause} {store popped : σ}
    (level : solver.assignment.level = 0)
    (pops : popInbox peer.config.store.inbox store = (.ok records, popped))
    (decoded : records.map Record.decode = clauses.map Except.ok)
    (nonempty : ∀ clause ∈ clauses, clause ≠ []) :
    ∃ report after last, peer.importInbox (⟨store, solver⟩ : World σ Solver) =
      (.ok report, after, last) ∧
      (report.contradiction = false ↔ solver.assignment.Accords clauses) ∧
      (solver.assignment.Accords clauses →
        ∃ gain, TakenIn peer.config.tiers solver last.host clauses gain ∧
        report = ImportReport.plus { records := records.length } gain ∧
        after.tally = peer.tally + { recordsImported := records.length } + gain) := by
  have beside : popInbox peer.config.store.inbox (⟨store, solver⟩ : World σ Solver) =
      (.ok records, ⟨popped, solver⟩) := World.popInbox_of_store pops
  rw [peer.importInbox_of_popped level beside]
  obtain ⟨earlier, front, later, ending, last, stops⟩ :=
    exists_stops peer.config.tiers records (⟨popped, solver⟩ : World σ Solver)
  rw [peer.integrateAll_of_stops stops]
  rcases stops.verdict decoded nonempty with ⟨accords, rfl, rfl, admits, rfl⟩ | ⟨clashes, left, rfl⟩
  · refine ⟨_, _, _, rfl, iff_of_true rfl accords, fun _ => ⟨_, ⟨?_, ?_⟩, rfl, ?_⟩⟩
    · exact totals_worldAfter peer.config.tiers nonempty (⟨popped, solver⟩ : World σ Solver)
    · exact admits.value?_worldAfter
    · exact (Tally.add_comm ..).trans (Tally.zero_add _)
  · refine ⟨_, _, _, rfl, iff_of_false ?_ clashes, fun accords => absurd accords clashes⟩
    exact Bool.noConfusion

/-- **The order of records does not matter.** Records that hold clauses which are not empty
are imported in whatever order they are popped, from whatever stores, and whether they bring about a
contradiction is the same. Where they bring about none, the solver has the same values, clauses and
counts of copies, and the counts of units and of distances are the same. If moreover no record
repeats a literal, each tier has got as many clauses. -/
theorem importInbox_reordered {records shuffled : List String} {store popped : σ} {other left : τ}
    (level : solver.assignment.level = 0) (perm : records.Perm shuffled)
    (reads : ∀ record ∈ records, Record.Reads record)
    (pops : popInbox peer.config.store.inbox store = (.ok records, popped))
    (yields : popInbox peer.config.store.inbox other = (.ok shuffled, left)) :
    ∃ report told after next last reached,
      peer.importInbox (⟨store, solver⟩ : World σ Solver) = (.ok report, after, last) ∧
      peer.importInbox (⟨other, solver⟩ : World τ Solver) = (.ok told, next, reached) ∧
      report.contradiction = told.contradiction ∧
      (report.contradiction = false →
        Interchangeable solver report told after.tally next.tally last.host reached.host ∧
        ((∀ record ∈ records, ∀ clause, Record.decode record = .ok clause → clause.Nodup) →
          ∀ tier, report.inTier tier = told.inTier tier)) := by
  obtain ⟨clauses, decoded, nonempty⟩ := Record.exists_decoded reads
  obtain ⟨others, read, rest⟩ :=
    Record.exists_decoded fun record inside => reads record (perm.mem_iff.mpr inside)
  have mixed : clauses.Perm others := by
    have ok : Function.Injective (Except.ok : Clause → Except Record.ReadError Clause) :=
      fun _ _ => Except.ok.inj
    rw [← List.map_perm_map_iff ok, ← decoded, ← read]
    exact perm.map _
  obtain ⟨report, after, last, imported, verdict, taken⟩ :=
    importInbox_of_reads level pops decoded nonempty
  obtain ⟨told, next, reached, also, same, again⟩ := importInbox_of_reads level yields read rest
  have agreed : solver.assignment.Accords clauses ↔ solver.assignment.Accords others :=
    Assignment.accords_perm mixed
  refine ⟨report, told, after, next, last, reached, imported, also, ?_, fun clean => ?_⟩
  · rw [Bool.eq_iff_iff, ← Bool.not_eq_false, ← Bool.not_eq_false, verdict, same, agreed]
  · have accords := verdict.mp clean
    obtain ⟨gain, takes, rfl, tally⟩ := taken accords
    obtain ⟨more, retakes, rfl, counted⟩ := again (agreed.mp accords)
    rw [tally, counted, ← perm.length_eq]
    refine ⟨takes.interchangeable retakes mixed _ _, fun distinct tier => ?_⟩
    rw [ImportReport.inTier_plus, ImportReport.inTier_plus]
    refine congrArg _ (takes.inTier_eq retakes mixed (fun clause inside => ?_) tier)
    obtain ⟨record, among, holds⟩ := Record.exists_of_mem_decoded decoded inside
    exact distinct record among clause holds

/-- Four literals, as two solvers may order them. -/
def fourfold : Clause := [⟨1, true⟩, ⟨2, false⟩, ⟨3, true⟩, ⟨4, true⟩]

/-- A unit and a clause, each of them twice. -/
def repeatedly : List Clause := [[⟨0, true⟩], fourfold, fourfold.reverse, [⟨0, true⟩]]

/-- A solver that knows nothing, beside a store that gives out these records. -/
def untaught (config : Config) (records : List String) : World ScriptedStore Solver where
  store := (scripted records).store
  host := Solver.starting config

theorem importInbox_reordered_reverse :
    ∃ report told after next last reached,
      ({} : Peer LearntKey).importInbox (untaught {} (repeatedly.map Record.encode)) =
        (.ok report, after, last) ∧
      ({} : Peer LearntKey).importInbox (untaught {} (repeatedly.map Record.encode).reverse) =
        (.ok told, next, reached) ∧
      report.contradiction = false ∧ told.contradiction = false ∧
      Interchangeable (Solver.starting {}) report told after.tally next.tally
        last.host reached.host ∧
      ∀ tier, report.inTier tier = told.inTier tier := by
  let peer : Peer LearntKey := {}
  let records := repeatedly.map Record.encode
  have decoded : records.map Record.decode = repeatedly.map Except.ok := by
    rw [List.map_map]
    exact List.map_congr_left fun clause _ => Record.decode_encode clause
  have nonempty : ∀ clause ∈ repeatedly, clause ≠ [] := by decide
  have reads : ∀ record ∈ records, Record.Reads record := by
    refine List.forall_mem_map.mpr fun clause inside => ?_
    exact ⟨clause, Record.decode_encode clause, nonempty clause inside⟩
  have level : (Solver.starting {}).assignment.level = 0 := rfl
  have pops : popInbox peer.config.store.inbox (scripted records).store =
      (.ok records, (scripted records).store) := rfl
  have yields : popInbox peer.config.store.inbox (scripted records.reverse).store =
      (.ok records.reverse, (scripted records.reverse).store) := rfl
  obtain ⟨report, told, after, next, last, reached, imported, also, same, clean⟩ :=
    importInbox_reordered level (List.reverse_perm records).symm reads pops yields
  have accords : (Solver.starting {}).assignment.Accords repeatedly := by
    intro literal inside
    have only : literal = ⟨0, true⟩ := by simpa [repeatedly, fourfold] using inside
    rw [only]
    exact ⟨Option.some_ne_none _ ∘ Eq.symm, by decide⟩
  obtain ⟨again, _, _, reimported, verdict, -⟩ := importInbox_of_reads level pops decoded nonempty
  obtain rfl : again = report :=
    Except.ok.inj (congrArg Prod.fst (reimported.symm.trans imported))
  have calm : again.contradiction = false := verdict.mpr accords
  obtain ⟨interchangeable, tiers⟩ := clean calm
  refine ⟨again, told, after, next, last, reached, imported, also, calm, same ▸ calm,
    interchangeable, ?_⟩
  apply tiers
  refine List.forall_mem_map.mpr fun clause inside other read => ?_
  rw [Record.decode_encode] at read
  cases read
  have distinct : ∀ clause ∈ repeatedly, clause.Nodup := by decide
  exact distinct clause inside

end Peer

end ClauseSharing
