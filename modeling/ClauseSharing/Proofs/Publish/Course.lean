import ClauseSharing.Proofs.Publish.Batches
import ClauseSharing.Proofs.Store.Ledger

/-! # The course of a publication

Whatever the store answers and whatever the source gives out, texts take the next identifiers in
order and go to the store in that order, up to some that are left behind (`Course`). How far this
goes tells how the units and the clauses end (`UnitsEnd`, `Publish.ClausesEnd`), and nothing else
can come of them (`Publish.unitBatches_course`, `Publish.clauseBatches_course`). -/

namespace ClauseSharing

namespace Tally

/-- The number of records published. -/
def published (tally : Tally) : Nat := tally.unitsPublished + tally.clausesPublished

end Tally

/-- From one point of a publication to a later one, texts have taken identifiers. Behind those that
waited in the batch they were sent, all but those that are left in the batch now. -/
structure Course (config : Config) (before : PublishProgress) (batch : List Write)
    (texts : List String) (sent : List Attempt) (left : List Write) (after : PublishProgress) :
    Prop where
  enough : texts.length ≤ before.counter.remaining
  counter : after.counter = before.counter.advance texts.length
  writes : batch ++ config.store.numbered before.counter.next texts = Attempt.written sent ++ left
  published : after.tally.published =
    before.tally.published + (Attempt.settledTexts sent).length

namespace Course

variable {config : Config} {before middle after : PublishProgress} {batch left last : List Write}
  {texts more : List String} {sent later : List Attempt}

theorem next (course : Course config before batch texts sent left after) :
    after.counter.next = before.counter.next + texts.length := by
  rw [course.counter, IdCounter.next_advance course.enough]

theorem trans (first : Course config before batch texts sent left middle)
    (second : Course config middle left more later last after) :
    Course config before batch (texts ++ more) (sent ++ later) last after where
  enough := by
    have room := second.enough
    rw [first.counter, IdCounter.remaining_advance first.enough] at room
    have enough := first.enough
    rw [List.length_append]
    omega
  counter := by
    rw [second.counter, first.counter, IdCounter.advance_advance, List.length_append]
  writes := by
    have rest := second.writes
    rw [first.next] at rest
    rw [StoreSettings.numbered_append, ← List.append_assoc, first.writes, List.append_assoc, rest,
      Attempt.written_append, List.append_assoc]
  published := by
    rw [second.published, first.published, Attempt.settledTexts_append, List.length_append,
      Nat.add_assoc]

theorem congr {other : PublishProgress} (course : Course config before batch texts sent left after)
    (counter : other.counter = after.counter)
    (published : other.tally.published = after.tally.published) :
    Course config before batch texts sent left other where
  enough := course.enough
  counter := counter.trans course.counter
  writes := course.writes
  published := published.trans course.published

/-- A course depends on where it begins by the counter and by how much was published before. -/
theorem congr_before {other : PublishProgress}
    (course : Course config before batch texts sent left after)
    (counter : before.counter = other.counter)
    (published : before.tally.published = other.tally.published) :
    Course config other batch texts sent left after where
  enough := counter ▸ course.enough
  counter := counter ▸ course.counter
  writes := counter ▸ course.writes
  published := published ▸ course.published

/-- If no text waited at first, those that were sent are the first of the texts, numbered
through. -/
theorem written_eq (course : Course config before [] texts sent left after) :
    ∃ front, front <+: texts ∧
      Attempt.written sent = config.store.numbered before.counter.next front := by
  refine ⟨texts.take (Attempt.written sent).length, List.take_prefix .., ?_⟩
  rw [← StoreSettings.take_numbered, ← List.nil_append (config.store.numbered _ _), course.writes,
    List.take_left]

/-- Where every batch was acknowledged and none is left, all texts are settled. -/
theorem settledTexts_eq (course : Course config before [] texts sent [] after)
    (acknowledged : ∀ attempt ∈ sent, attempt.Acknowledged) :
    Attempt.settledTexts sent = texts := by
  have writes := course.writes
  rw [List.nil_append, List.append_nil] at writes
  rw [Attempt.settledTexts_of_acknowledged acknowledged, ← writes, StoreSettings.map_snd_numbered]

/-- Nothing is sent, whatever else is counted. -/
theorem still (counter : after.counter = before.counter)
    (published : after.tally.published = before.tally.published) :
    Course config before batch [] [] batch after where
  enough := Nat.zero_le _
  counter := by rw [counter, List.length_nil, IdCounter.advance_zero]
  writes := by rw [StoreSettings.numbered_nil, List.append_nil,
    Attempt.written_nil, List.nil_append]
  published := published

/-- Texts take identifiers and wait in the batch. -/
theorem gather (config : Config) (batch : List Write)
    (enough : texts.length ≤ before.counter.remaining) :
    Course config before batch texts []
      (batch ++ config.store.numbered before.counter.next texts)
      { before with counter := before.counter.advance texts.length } where
  enough := enough
  counter := rfl
  writes := rfl
  published := rfl

/-- The batch is sent, and what the store acknowledged is counted. -/
theorem send {outcome : Except StoreError Unit} (counter : after.counter = before.counter)
    (published : after.tally.published =
      before.tally.published + (Attempt.settled ⟨batch, outcome⟩).length) :
    Course config before batch [] [⟨batch, outcome⟩] [] after where
  enough := Nat.zero_le _
  counter := by rw [counter, List.length_nil, IdCounter.advance_zero]
  writes := by
    simp only [StoreSettings.numbered_nil, Attempt.written_cons, Attempt.written_nil,
      List.append_nil]
  published := by
    rw [published, Attempt.settledTexts_cons, Attempt.settledTexts_nil, List.append_nil,
      List.length_map]

/-- Texts take identifiers and are sent at once behind those that waited. -/
theorem gatherSend {outcome : Except StoreError Unit}
    (enough : texts.length ≤ before.counter.remaining)
    (counter : after.counter = before.counter.advance texts.length)
    (published : after.tally.published = before.tally.published + (Attempt.settled
      ⟨batch ++ config.store.numbered before.counter.next texts, outcome⟩).length) :
    Course config before batch texts
      [⟨batch ++ config.store.numbered before.counter.next texts, outcome⟩] [] after := by
  have both := (gather config batch enough).trans (send counter published)
  rwa [List.append_nil, List.nil_append] at both

/-- The text of a clause takes an identifier and waits in the batch. -/
theorem join (config : Config) (batch : List Write) (enough : 1 ≤ before.counter.remaining)
    (text : String) :
    Course config before batch [text] []
      (batch ++ [(config.store.recordKey before.counter.next, text)])
      (before.afterClauses 1 0 0) := by
  have one : [text].length ≤ before.counter.remaining := enough
  have gathered : Course config before batch [text] [] _ (before.afterClauses 1 0 0) :=
    (gather config batch one).congr rfl rfl
  rwa [StoreSettings.numbered_cons, StoreSettings.numbered_nil] at gathered

end Course

/-- How units end: all of them are published, or the identifiers do not suffice for a batch, or the
store refuses one. -/
inductive UnitsEnd (units : List Literal) (before : PublishProgress) :
    Except Fault Unit → List String → List Attempt → PublishProgress → Prop where
  | complete {sent : List Attempt} {after : PublishProgress} :
      (∀ attempt ∈ sent, attempt.Acknowledged) →
      after.report.units = before.report.units + units.length →
      UnitsEnd units before (.ok ()) (units.map Record.encodeUnit) sent after
  | exhausted {texts : List String} {sent : List Attempt} {after : PublishProgress} :
      texts <+: units.map Record.encodeUnit →
      UnitsEnd units before (.error (.publishing .identifiersExhausted)) texts sent after
  | refused {reason : StoreError} {texts : List String} {sent : List Attempt}
      {after : PublishProgress} :
      texts <+: units.map Record.encodeUnit → (∃ attempt ∈ sent, ¬attempt.Acknowledged) →
      UnitsEnd units before (.error (.store reason)) texts sent after

namespace UnitsEnd

variable {batch units : List Literal} {before next after : PublishProgress}
  {outcome : Except Fault Unit} {texts : List String} {sent : List Attempt} {attempt : Attempt}

/-- Units behind an acknowledged batch end as they would end alone. -/
theorem behind (acknowledged : attempt.Acknowledged)
    (counted : next.report.units = before.report.units + batch.length)
    (ends : UnitsEnd units next outcome texts sent after) :
    UnitsEnd (batch ++ units) before outcome (batch.map Record.encodeUnit ++ texts)
      (attempt :: sent) after := by
  have front {rest : List String} (isPrefix : rest <+: units.map Record.encodeUnit) :
      batch.map Record.encodeUnit ++ rest <+: (batch ++ units).map Record.encodeUnit := by
    rw [List.map_append]
    exact (List.prefix_append_right_inj _).mpr isPrefix
  cases ends with
  | complete others total =>
    rw [← List.map_append]
    refine .complete (List.forall_mem_cons.mpr ⟨acknowledged, others⟩) ?_
    rw [total, counted, List.length_append, Nat.add_assoc]
  | exhausted isPrefix => exact .exhausted (front isPrefix)
  | refused isPrefix failed =>
    obtain ⟨bad, inside, refused⟩ := failed
    exact .refused (front isPrefix) ⟨bad, List.mem_cons_of_mem _ inside, refused⟩

end UnitsEnd

namespace Publish

variable {ω κ : Type} {config : Config} {source : κ → Option Clause}

instance (source : κ → Option Clause) : DecidablePred (Shareable source) := fun key =>
  decidable_of_iff ((source key).any (2 ≤ ·.length) = true) (by
    rw [Shareable, Option.any_eq_true]
    simp only [decide_eq_true_eq])

/-- If all keys are live and plural, the clauses that are shared are those under them that are not
too long. -/
theorem exists_shared_eq {keys : List κ} (shareable : ∀ key ∈ keys, Shareable source key) :
    ∃ pairs : List (κ × Clause), keys = pairs.map Prod.fst ∧
      (∀ pair ∈ pairs, source pair.1 = some pair.2) ∧
      shared config source keys =
        (pairs.map Prod.snd).filter fun clause => clause.length ≤ config.maxLength := by
  induction keys with
  | nil => exact ⟨[], rfl, fun _ none => absurd none List.not_mem_nil, rfl⟩
  | cons key keys ih =>
    obtain ⟨⟨clause, found, -⟩, others⟩ := List.forall_mem_cons.mp shareable
    obtain ⟨pairs, rfl, given, rest⟩ := ih others
    refine ⟨(key, clause) :: pairs, rfl, List.forall_mem_cons.mpr ⟨found, given⟩, ?_⟩
    unfold shared at rest ⊢
    rw [List.filterMap_cons_some found, List.filter_cons, rest, List.map_cons, List.filter_cons]

/-- The keys in front of the first that is not live and plural. -/
def leading (source : κ → Option Clause) (keys : List κ) : List κ :=
  keys.takeWhile fun key => Shareable source key

/-- How clauses end if so many wait in the batch at first: all that are not too long are published,
or no identifier is left, or a clause is not live and plural, or the store refuses a batch. Where a
clause is at fault, those in front of it that fill no batch are left. -/
inductive ClausesEnd (config : Config) (source : κ → Option Clause)
    (keys : List κ) (waiting : Nat) :
    Except Fault Unit → List String → List Attempt → List Write → Prop where
  | complete {sent : List Attempt} :
      (∀ key ∈ keys, Shareable source key) → (∀ attempt ∈ sent, attempt.Acknowledged) →
      ClausesEnd config source keys waiting (.ok ())
        ((shared config source keys).map Record.encode) sent []
  | exhausted {texts : List String} {sent : List Attempt} :
      ClausesEnd config source keys waiting (.error (.publishing .identifiersExhausted)) texts sent
        []
  | unshareable {error : PublishError} {sent : List Attempt} {left : List Write} :
      error = .removedClause ∨ error = .shortClause →
      left.length =
        (waiting + (shared config source (leading source keys)).length) % config.batchWidth →
      ClausesEnd config source keys waiting (.error (.publishing error))
        ((shared config source (leading source keys)).map Record.encode) sent left
  | refused {reason : StoreError} {texts : List String} {sent : List Attempt} :
      (∃ attempt ∈ sent, ¬attempt.Acknowledged) →
      ClausesEnd config source keys waiting (.error (.store reason)) texts sent []

section

variable {key : κ} {keys : List κ} {clause : Clause} {waiting gathered : Nat}
  {outcome : Except Fault Unit} {texts : List String} {sent later : List Attempt}
  {left : List Write} (found : source key = some clause)
include found

theorem leading_cons (plural : 2 ≤ clause.length) :
    leading source (key :: keys) = key :: leading source keys :=
  List.takeWhile_cons_of_pos (decide_eq_true ⟨clause, found, plural⟩)

theorem not_shareable (short : ¬2 ≤ clause.length) : ¬Shareable source key := by
  rintro ⟨other, same, plural⟩
  rw [found] at same
  exact short (Option.some.inj same ▸ plural)

/-- A clause that is too long makes no difference to how the others end. -/
theorem ClausesEnd.cons_of_long (plural : 2 ≤ clause.length)
    (long : config.maxLength < clause.length)
    (ends : ClausesEnd config source keys waiting outcome texts sent left) :
    ClausesEnd config source (key :: keys) waiting outcome texts sent left := by
  cases ends with
  | complete shareable acknowledged =>
    rw [← shared_cons_of_long found long]
    exact .complete (List.forall_mem_cons.mpr ⟨⟨clause, found, plural⟩, shareable⟩) acknowledged
  | exhausted => exact .exhausted
  | unshareable fault rest =>
    rw [← shared_cons_of_long found long, ← leading_cons found plural] at rest ⊢
    exact .unshareable fault rest
  | refused failed => exact .refused failed

/-- Behind a clause that joins the batch the others end as they do alone, whether the batch was sent
or goes on. -/
theorem ClausesEnd.cons_of_short (plural : 2 ≤ clause.length)
    (short : ¬config.maxLength < clause.length)
    (acknowledged : ∀ attempt ∈ sent, attempt.Acknowledged)
    (batch : gathered % config.batchWidth = (waiting + 1) % config.batchWidth)
    (ends : ClausesEnd config source keys gathered outcome texts later left) :
    ClausesEnd config source (key :: keys) waiting outcome (Record.encode clause :: texts)
      (sent ++ later) left := by
  cases ends with
  | complete shareable others =>
    rw [← List.map_cons, ← shared_cons_of_short found short]
    refine .complete (List.forall_mem_cons.mpr ⟨⟨clause, found, plural⟩, shareable⟩) ?_
    exact List.forall_mem_append.mpr ⟨acknowledged, others⟩
  | exhausted => exact .exhausted
  | unshareable fault rest =>
    rw [← List.map_cons, ← shared_cons_of_short found short, ← leading_cons found plural]
    refine .unshareable fault ?_
    rw [rest, leading_cons found plural, shared_cons_of_short found short, List.length_cons,
      Nat.add_mod, batch, ← Nat.add_mod, Nat.add_right_comm, Nat.add_assoc]
  | refused failed =>
    obtain ⟨bad, inside, refused⟩ := failed
    exact .refused ⟨bad, List.mem_append_right _ inside, refused⟩

end

/-- A first clause that is not live and plural leaves the batch as it is. -/
theorem ClausesEnd.of_not_shareable {key : κ} {keys : List κ} {batch : List Write}
    {error : PublishError} (fault : error = .removedClause ∨ error = .shortClause)
    (unshareable : ¬Shareable source key) (narrow : batch.length < config.batchWidth) :
    ClausesEnd config source (key :: keys) batch.length
      (.error (.publishing error)) [] [] batch := by
  have none : leading source (key :: keys) = [] :=
    List.takeWhile_cons_of_neg (by rwa [decide_eq_true_iff])
  have ends : ClausesEnd config source (key :: keys) batch.length (.error (.publishing error))
      ((shared config source (leading source (key :: keys))).map Record.encode) [] batch := by
    refine .unshareable fault ?_
    rw [none]
    exact (Nat.mod_eq_of_lt narrow).symm
  rwa [none] at ends

variable [Store ω]

theorem unitBatches_course (config : Config) (batches : List (List Literal))
    (progress : PublishProgress) (ledger : Ledger ω) :
    ∃ outcome texts sent after world,
      unitBatches config batches progress ledger =
        (outcome, after, { attempts := ledger.attempts ++ sent, world }) ∧
      Course config progress [] texts sent [] after ∧
      UnitsEnd batches.flatten progress outcome texts sent after := by
  induction batches generalizing progress ledger with
  | nil =>
    refine ⟨.ok (), [], [], progress, ledger.world, ?_, .still rfl rfl,
      .complete (fun _ none => absurd none List.not_mem_nil) rfl⟩
    rw [unitBatches, List.append_nil]
  | cons batch batches ih =>
    rw [unitBatches, List.flatten_cons]
    -- A batch is begun only if it finds enough identifiers, and goes out with all it has taken.
    by_cases enough : batch.length ≤ progress.counter.remaining
    · have room : (batch.map Record.encodeUnit).length ≤ progress.counter.remaining := by
        rwa [List.length_map]
      rw [IdCounter.takeMany?_of_le enough]
      dsimp only
      rw [zipWith_range'_eq_numbered, Ledger.writeBatch_eq]
      generalize Store.writeBatch _ ledger.world = answer
      obtain ⟨outcome, world⟩ := answer
      cases outcome with
      | error reason =>
        refine ⟨_, _, _, _, world, rfl, .gatherSend room ?_ rfl, .refused ?_ ?_⟩
        · rw [List.length_map]
        · rw [List.map_append]
          exact List.prefix_append ..
        · exact ⟨_, List.mem_singleton_self _, Attempt.not_acknowledged_error⟩
      | ok _ =>
        let counted : PublishProgress :=
          PublishProgress.countUnits
            { progress with counter := progress.counter.advance batch.length } batch.length
        have sent : Course config progress [] (batch.map Record.encodeUnit)
            [⟨config.store.numbered progress.counter.next (batch.map Record.encodeUnit), .ok ()⟩] []
            counted := by
          refine .gatherSend room ?_ ?_
          · rw [List.length_map]
            rfl
          · simp only [Tally.published, Attempt.settled_ok, List.nil_append,
              StoreSettings.length_numbered, List.length_map, counted, PublishProgress.countUnits]
            omega
        obtain ⟨outcome, texts, later, after, last, done, course, ends⟩ := ih counted
          { attempts := ledger.attempts ++
              [⟨config.store.numbered progress.counter.next (batch.map Record.encodeUnit), .ok ()⟩]
            world }
        refine ⟨outcome, _, _, after, last, ?_, sent.trans course, ends.behind rfl rfl⟩
        rw [List.append_assoc] at done
        exact done
    · have refused : progress.counter.takeMany? batch.length = none := if_neg enough
      rw [refused]
      refine ⟨_, [], [], progress, ledger.world, ?_, .still rfl rfl, .exhausted (List.nil_prefix)⟩
      rw [List.append_nil]

theorem writeClauses_course (config : Config) (batch : List Write) (progress : PublishProgress)
    (ledger : Ledger ω) :
    ∃ outcome sent after world,
      writeClauses batch progress ledger =
        (outcome, after, { attempts := ledger.attempts ++ sent, world }) ∧
      Course config progress batch [] sent [] after ∧
      ((outcome = .ok () ∧ ∀ attempt ∈ sent, attempt.Acknowledged) ∨
        ∃ reason, outcome = .error (.store reason) ∧ ∃ attempt ∈ sent, ¬attempt.Acknowledged) := by
  rw [writeClauses]
  by_cases empty : batch = []
  · subst empty
    refine ⟨.ok (), [], progress, ledger.world, ?_, .still rfl rfl,
      .inl ⟨rfl, fun _ none => absurd none List.not_mem_nil⟩⟩
    rw [List.append_nil]
    rfl
  · rw [if_neg fun isEmpty => empty (List.isEmpty_iff.mp isEmpty), Ledger.writeBatch_eq]
    generalize Store.writeBatch batch ledger.world = answer
    obtain ⟨outcome, world⟩ := answer
    cases outcome with
    | error reason =>
      refine ⟨_, _, progress, world, rfl, .send rfl rfl, .inr ⟨reason, rfl, ?_⟩⟩
      exact ⟨_, List.mem_singleton_self _, Attempt.not_acknowledged_error⟩
    | ok _ =>
      refine ⟨_, _, progress.countClauses batch.length, world, rfl, .send rfl ?_, .inl ⟨rfl, ?_⟩⟩
      · exact (Nat.add_assoc ..).symm
      · intro attempt inside
        rw [List.mem_singleton.mp inside]
        rfl

/-- Whether clauses behind a batch are sent in a course and come to one of the ends. -/
def ClausesGo (config : Config) (source : κ → Option Clause) (keys : List κ) (batch : List Write)
    (progress : PublishProgress) (ledger : Ledger ω) : Prop :=
  ∃ outcome texts sent left after world,
    clauseBatches config source keys batch progress ledger =
      (outcome, after, { attempts := ledger.attempts ++ sent, world }) ∧
    Course config progress batch texts sent left after ∧
    ClausesEnd config source keys batch.length outcome texts sent left

/-- A clause that is not too long and finds an identifier joins the batch, which is sent if it is
full, and the other clauses go on. -/
theorem clausesGo_cons_of_short {key : κ} {keys : List κ} {clause : Clause}
    (found : source key = some clause) (plural : 2 ≤ clause.length)
    (short : ¬config.maxLength < clause.length) {batch : List Write}
    (narrow : batch.length < config.batchWidth) {progress : PublishProgress}
    (enough : 1 ≤ progress.counter.remaining) (ledger : Ledger ω)
    (others : ∀ batch : List Write, batch.length < config.batchWidth →
      ∀ (progress : PublishProgress) (ledger : Ledger ω),
        ClausesGo config source keys batch progress ledger) :
    ClausesGo config source (key :: keys) batch progress ledger := by
  have joined := Course.join config batch enough (Record.encode clause)
  have nothing : ∀ attempt ∈ ([] : List Attempt), attempt.Acknowledged :=
    fun _ none => absurd none List.not_mem_nil
  rw [ClausesGo, clauseBatches_cons_of_short found plural short keys batch enough]
  generalize gathering : batch ++ [(config.store.recordKey progress.counter.next,
    Record.encode clause)] = gathered at joined ⊢
  have longer : gathered.length = batch.length + 1 := by
    rw [← gathering, List.length_append, List.length_singleton]
  dsimp only
  by_cases full : gathered.length = config.batchWidth
  · obtain ⟨outcome, sent, after, world, done, flushed, ends⟩ :=
      writeClauses_course config gathered (progress.afterClauses 1 0 0) ledger
    rw [if_pos full, done]
    rcases ends with ⟨rfl, acknowledged⟩ | ⟨reason, rfl, failed⟩
    · -- The next batch starts empty.
      obtain ⟨outcome, texts, later, left, last, world, rest, course, ends⟩ :=
        others [] (Nat.zero_lt_of_lt narrow) after { attempts := ledger.attempts ++ sent, world }
      have emptied : ([] : List Write).length % config.batchWidth =
          (batch.length + 1) % config.batchWidth := by
        rw [← longer, full, Nat.mod_self, List.length_nil, Nat.zero_mod]
      refine ⟨outcome, _, sent ++ later, left, last, world, ?_, joined.trans (flushed.trans course),
        ends.cons_of_short found plural short acknowledged emptied⟩
      rw [List.append_assoc] at rest
      exact rest
    · exact ⟨_, _, _, _, after, world, rfl, joined.trans flushed, .refused failed⟩
  · have shorter : gathered.length < config.batchWidth := by omega
    obtain ⟨outcome, texts, later, left, last, world, rest, course, ends⟩ :=
      others gathered shorter (progress.afterClauses 1 0 0) ledger
    rw [if_neg full]
    refine ⟨outcome, _, _, left, last, world, rest, joined.trans course, ?_⟩
    exact ends.cons_of_short found plural short nothing (congrArg (· % config.batchWidth) longer)

/-- Clauses go their course, whatever the store answers and the source gives out. -/
theorem clauseBatches_course (config : Config) (source : κ → Option Clause) (keys : List κ)
    (batch : List Write) (narrow : batch.length < config.batchWidth) (progress : PublishProgress)
    (ledger : Ledger ω) : ClausesGo config source keys batch progress ledger := by
  -- The batch grows and is emptied on the way, and is never full when a key is looked at.
  induction keys generalizing batch progress ledger with
  | nil =>
    obtain ⟨outcome, sent, after, world, done, course, ends⟩ :=
      writeClauses_course config batch progress ledger
    rw [ClausesGo, clauseBatches, done]
    rcases ends with ⟨rfl, acknowledged⟩ | ⟨reason, rfl, failed⟩
    · refine ⟨_, [], sent, [], after.tallySkipped, world, rfl, course.congr rfl rfl,
        .complete ?_ acknowledged⟩
      exact fun _ none => absurd none List.not_mem_nil
    · exact ⟨_, [], sent, [], after, world, rfl, course, .refused failed⟩
  | cons key keys ih =>
    cases found : source key with
    | none =>
      have unshareable : ¬Shareable source key := by
        rintro ⟨_, same, -⟩
        rw [found] at same
        cases same
      rw [ClausesGo, clauseBatches, found]
      refine ⟨_, [], [], batch, progress.countProcessed, ledger.world, ?_, .still rfl rfl,
        .of_not_shareable (.inl rfl) unshareable narrow⟩
      rw [List.append_nil]
    | some clause =>
      by_cases plural : 2 ≤ clause.length
      · by_cases long : config.maxLength < clause.length
        · obtain ⟨outcome, texts, sent, left, after, world, rest, course, ends⟩ :=
            ih batch narrow (progress.afterClauses 0 0 1) ledger
          rw [ClausesGo, clauseBatches_cons_of_long found plural long]
          have skipped : Course config progress batch [] [] batch (progress.afterClauses 0 0 1) :=
            .still progress.counter.advance_zero rfl
          exact ⟨outcome, texts, sent, left, after, world, rest, skipped.trans course,
            ends.cons_of_long found plural long⟩
        · by_cases enough : 1 ≤ progress.counter.remaining
          · exact clausesGo_cons_of_short found plural long narrow enough ledger ih
          · -- No identifier is left, and those that took one before are still sent.
            have spent : progress.countProcessed.counter.take? = none := if_neg enough
            obtain ⟨outcome, sent, after, world, done, course, ends⟩ :=
              writeClauses_course config batch progress.countProcessed ledger
            have looked : Course config progress batch [] [] batch progress.countProcessed :=
              .still rfl rfl
            rw [ClausesGo, clauseBatches, found]
            dsimp only
            rw [if_neg (by omega), if_neg long, spent]
            dsimp only
            rw [done]
            rcases ends with ⟨rfl, -⟩ | ⟨reason, rfl, failed⟩
            · exact ⟨_, _, _, _, after, world, rfl, looked.trans course, .exhausted⟩
            · exact ⟨_, _, _, _, after, world, rfl, looked.trans course, .refused failed⟩
      · rw [ClausesGo, clauseBatches, found]
        dsimp only
        rw [if_pos (by omega)]
        refine ⟨_, [], [], batch, progress.countProcessed, ledger.world, ?_, .still rfl rfl,
          .of_not_shareable (.inr rfl) (not_shareable found plural) narrow⟩
        rw [List.append_nil]

end Publish

end ClauseSharing
