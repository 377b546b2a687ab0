import ClauseSharing.Proofs.Publish.Publication

/-! # Queues are emptied as a whole

However a publication ends, each queue is left as it was or is emptied, and it is emptied only if
all of it was acknowledged or was too long to be sent (`Peer.Drains`, `Peer.Publication.drains`). So
in a run nothing is lost: what was ever queued waits still, was acknowledged on the way or was too
long (`Peer.Accounts`, `Peer.Run.accounts`). Both hold whatever the store answers
(`Peer.publish_drains`). -/

namespace ClauseSharing

theorem Outbox.eq_empty_of_isEmpty {κ : Type} {outbox : Outbox κ} (empty : outbox.isEmpty = true) :
    outbox = {} := by
  rw [isEmpty, Bool.and_eq_true, List.isEmpty_iff, List.isEmpty_iff] at empty
  exact Outbox.ext empty.1 empty.2

namespace Peer

variable {ω κ : Type}

/-- Before anything else was sent, all units that wait were acknowledged. -/
def UnitsSettled (peer : Peer κ) (sent : List Attempt) : Prop :=
  peer.outbox.units.map Record.encodeUnit <+: Attempt.settledTexts sent

/-- The records of the clauses that are not too long, of some with their keys. -/
def shortRecords (config : Config) (pairs : List (κ × Clause)) : List String :=
  ((pairs.map Prod.snd).filter fun clause => clause.length ≤ config.maxLength).map Record.encode

/-- All clauses that wait were given out, and in the end those that are not too long were
acknowledged. -/
def ClausesSettled (peer : Peer κ) (source : κ → Option Clause) (sent : List Attempt) : Prop :=
  ∃ pairs : List (κ × Clause), peer.outbox.clauses = pairs.map Prod.fst ∧
    (∀ pair ∈ pairs, source pair.1 = some pair.2) ∧
    shortRecords peer.config pairs <:+ Attempt.settledTexts sent

/-- What becomes of the queues in a publication. -/
structure Drains (peer : Peer κ) (source : κ → Option Clause)
    (outcome : Except Fault PublishReport) (after : Peer κ) (sent : List Attempt) : Prop where
  units : after.outbox.units = peer.outbox.units ∨ after.outbox.units = []
  unitsSettled : after.outbox.units = [] → peer.UnitsSettled sent
  /-- Unless all units are gone, nothing but some of the first of them was written. -/
  unitsFirst : after.outbox.units ≠ [] → ∃ texts,
    texts <+: peer.outbox.units.map Record.encodeUnit ∧
    Attempt.written sent = peer.config.store.numbered peer.counter.next texts
  clauses : after.outbox.clauses = peer.outbox.clauses ∨ after.outbox.clauses = []
  clausesSettled : after.outbox.clauses = [] → peer.ClausesSettled source sent
  succeeded : ∀ report, outcome = .ok report → after.outbox = {}
  failed : ∀ fault, outcome = .error fault → after.outbox.clauses = peer.outbox.clauses
  drained : outcome ≠ .error (.publishing .queueNotDrained)

variable {peer after last : Peer κ} {source : κ → Option Clause}
  {reached : Except StoreError Unit} {outcome : Except Fault PublishReport}
  {texts : List String} {sent : List Attempt}

theorem unitsSettled_of_nil (none : peer.outbox.units = []) : peer.UnitsSettled sent := by
  rw [UnitsSettled, none]
  exact List.nil_prefix

theorem clausesSettled_of_nil (none : peer.outbox.clauses = []) :
    peer.ClausesSettled source sent := by
  exact ⟨[], none, fun _ absent => absurd absent List.not_mem_nil, List.nil_suffix⟩

namespace Drains

variable {fault : Fault}

/-- A failure that leaves the queues as they were, after some of the first units were written. -/
theorem of_failed (kept : after.outbox = peer.outbox)
    (isPrefix : texts <+: peer.outbox.units.map Record.encodeUnit)
    (written : Attempt.written sent = peer.config.store.numbered peer.counter.next texts)
    (other : fault ≠ .publishing .queueNotDrained) :
    Drains peer source (.error fault) after sent where
  units := .inl (congrArg Outbox.units kept)
  unitsSettled none := unitsSettled_of_nil (kept ▸ none)
  unitsFirst _ := ⟨texts, isPrefix, written⟩
  clauses := .inl (congrArg Outbox.clauses kept)
  clausesSettled none := clausesSettled_of_nil (kept ▸ none)
  succeeded := nofun
  failed _ _ := congrArg Outbox.clauses kept
  drained same := other (Except.error.inj same)

/-- A failure behind the units, which were all acknowledged. -/
theorem of_unitsSettled (gone : after.outbox.units = [])
    (kept : after.outbox.clauses = peer.outbox.clauses) (settled : peer.UnitsSettled sent)
    (other : fault ≠ .publishing .queueNotDrained) :
    Drains peer source (.error fault) after sent where
  units := .inr gone
  unitsSettled _ := settled
  unitsFirst waiting := absurd gone waiting
  clauses := .inl kept
  clausesSettled none := clausesSettled_of_nil (kept ▸ none)
  succeeded := nofun
  failed _ _ := kept
  drained same := other (Except.error.inj same)

theorem of_settled {report : PublishReport} (gone : after.outbox = {})
    (units : peer.UnitsSettled sent) (clauses : peer.ClausesSettled source sent) :
    Drains peer source (.ok report) after sent where
  units := .inr (congrArg Outbox.units gone)
  unitsSettled _ := units
  unitsFirst waiting := absurd (congrArg Outbox.units gone) waiting
  clauses := .inr (congrArg Outbox.clauses gone)
  clausesSettled _ := clauses
  succeeded _ _ := gone
  failed := nofun
  drained := nofun

end Drains

theorem Publication.drains (ends : Publication peer source reached outcome after sent) :
    Drains peer source outcome after sent := by
  cases ends with
  | idle empty =>
    have none := Outbox.eq_empty_of_isEmpty empty
    exact .of_settled none (unitsSettled_of_nil (congrArg Outbox.units none))
      (clausesSettled_of_nil (congrArg Outbox.clauses none))
  | unreached _ => exact .of_failed rfl List.nil_prefix rfl nofun
  | widthless _ => exact .of_failed rfl List.nil_prefix rfl nofun
  | unitsFailed course ends =>
    have written := course.writes
    rw [List.nil_append, List.append_nil] at written
    cases ends with
    | exhausted isPrefix => exact .of_failed rfl isPrefix written.symm nofun
    | refused isPrefix _ => exact .of_failed rfl isPrefix written.symm nofun
  | clausesFailed course ends _ clausesEnd =>
    -- Clauses are only begun once all units have been acknowledged.
    cases ends with
    | complete acknowledged _ =>
      refine .of_unitsSettled rfl rfl ?_ ?_
      · rw [UnitsSettled, Attempt.settledTexts_append, course.settledTexts_eq acknowledged]
        exact List.prefix_append ..
      · cases clausesEnd with
        | exhausted => exact nofun
        | unshareable kind _ => rcases kind with rfl | rfl <;> exact nofun
        | refused _ => exact nofun
  | @complete _ _ sent later _ _ _ course ends further clausesEnd =>
    cases ends with
    | complete acknowledged _ =>
      cases clausesEnd with
      | complete shareable others =>
        have all : Attempt.settledTexts (sent ++ later) = peer.outbox.units.map Record.encodeUnit ++
            (Publish.shared peer.config source peer.outbox.clauses).map Record.encode := by
          rw [Attempt.settledTexts_append, course.settledTexts_eq acknowledged,
            further.settledTexts_eq others]
        obtain ⟨pairs, keys, given, short⟩ := Publish.exists_shared_eq shareable
        refine .of_settled rfl ?_ ?_
        · rw [UnitsSettled, all]
          exact List.prefix_append ..
        · refine ⟨pairs, keys, given, ?_⟩
          rw [all, short]
          exact List.suffix_append ..

/-- Units that no longer wait after a publication are the first of those that did. -/
theorem Drains.units_gone (drains : Drains peer source outcome after sent) :
    ∃ gone, peer.outbox.units = gone ++ after.outbox.units ∧
      (gone.map Record.encodeUnit).Sublist (Attempt.settledTexts sent) := by
  rcases drains.units with kept | none
  · exact ⟨[], kept.symm, List.nil_sublist _⟩
  · refine ⟨peer.outbox.units, ?_, (drains.unitsSettled none).sublist⟩
    rw [none, List.append_nil]

theorem Drains.clauses_gone (drains : Drains peer source outcome after sent) :
    ∃ gone : List (κ × Clause), peer.outbox.clauses = gone.map Prod.fst ++ after.outbox.clauses ∧
      (∀ pair ∈ gone, source pair.1 = some pair.2) ∧
      (shortRecords peer.config gone).Sublist (Attempt.settledTexts sent) := by
  rcases drains.clauses with kept | none
  · exact ⟨[], kept.symm, fun _ absent => absurd absent List.not_mem_nil, List.nil_sublist _⟩
  · obtain ⟨pairs, keys, given, settled⟩ := drains.clausesSettled none
    refine ⟨pairs, ?_, given, settled.sublist⟩
    rw [keys, none, List.append_nil]

/-- What became in a run of all that waited at first or was queued on the way: the first of it is
settled, and the rest waits still. -/
structure Accounts (peer : Peer κ) (actions : List (OutboxAction κ)) (sent : List Attempt)
    (last : Peer κ) : Prop where
  units : ∃ gone, peer.outbox.units ++ OutboxAction.units actions = gone ++ last.outbox.units ∧
    (gone.map Record.encodeUnit).Sublist (Attempt.settledTexts sent)
  clauses : ∃ gone : List (κ × Clause),
    peer.outbox.clauses ++ OutboxAction.clauses actions = gone.map Prod.fst ++ last.outbox.clauses ∧
    (∀ pair ∈ gone, ∃ source ∈ OutboxAction.sources actions, source pair.1 = some pair.2) ∧
    (shortRecords peer.config gone).Sublist (Attempt.settledTexts sent)

variable {actions : List (OutboxAction κ)} {outcomes : List (Except Fault PublishReport)}
  {unused : Nat}

theorem Run.accounts (run : Run peer actions outcomes sent unused last) :
    Accounts peer actions sent last := by
  -- What is gone in a publication stands in front of what is gone later, since queues grow behind.
  induction run with
  | done =>
    refine ⟨⟨[], ?_, List.nil_sublist _⟩, ⟨[], ?_, ?_, List.nil_sublist _⟩⟩
    · exact List.append_nil _
    · exact List.append_nil _
    · exact fun _ absent => absurd absent List.not_mem_nil
  | @queueUnit peer last literal actions _ sent _ _ ih =>
    obtain ⟨gone, split, settled⟩ := ih.units
    refine ⟨⟨gone, ?_, settled⟩, ih.clauses⟩
    rw [← split]
    exact List.append_cons ..
  | @queueClause peer last key actions _ sent _ _ ih =>
    obtain ⟨gone, split, given, settled⟩ := ih.clauses
    refine ⟨ih.units, ⟨gone, ?_, given, settled⟩⟩
    rw [← split]
    exact List.append_cons ..
  | @publish peer after last source _ actions _ _ sent later _ ends _ ih =>
    have drains := ends.drains
    have config : after.config = peer.config := ends.course.1
    constructor
    · obtain ⟨now, waited, settled⟩ := drains.units_gone
      obtain ⟨gone, split, others⟩ := ih.units
      refine ⟨now ++ gone, ?_, ?_⟩
      · have queued : OutboxAction.units (.publish source :: actions) =
            OutboxAction.units actions := rfl
        rw [queued, waited, List.append_assoc, split, List.append_assoc]
      · rw [List.map_append, Attempt.settledTexts_append]
        exact settled.append others
    · obtain ⟨now, waited, given, settled⟩ := drains.clauses_gone
      obtain ⟨gone, split, later, others⟩ := ih.clauses
      refine ⟨now ++ gone, ?_, ?_, ?_⟩
      · have queued : OutboxAction.clauses (.publish source :: actions) =
            OutboxAction.clauses actions := rfl
        rw [queued, waited, List.append_assoc, split, List.map_append, List.append_assoc]
      · intro pair inside
        rcases List.mem_append.mp inside with first | rest
        · exact ⟨source, List.mem_cons_self, given pair first⟩
        · obtain ⟨other, isSource, found⟩ := later pair rest
          exact ⟨other, List.mem_cons_of_mem _ isSource, found⟩
      · rw [config] at others
        rw [shortRecords, List.map_append, List.filter_append, List.map_append,
          Attempt.settledTexts_append]
        exact settled.append others

theorem Run.drained (run : Run peer actions outcomes sent unused last) :
    .error (.publishing .queueNotDrained) ∉ outcomes := by
  induction run with
  | done => exact List.not_mem_nil
  | queueUnit _ ih => exact ih
  | queueClause _ ih => exact ih
  | publish ends _ ih =>
    intro inside
    rcases List.mem_cons.mp inside with now | later
    · exact ends.drains.drained now.symm
    · exact ih later

/-- **Queues are emptied as a whole, and nothing that was queued is lost**, whatever the store
answers and the source gives out. What is sent is read off an account of the batches, the keeping of
which changes nothing. -/
theorem publish_drains [Store ω] (peer : Peer κ) (world : ω) :
    (∀ source, ∃ outcome after sent next,
      peer.publish source world = (outcome, after, next) ∧
      peer.publish source ({ world } : Ledger ω) = (outcome, after, ⟨sent, next⟩) ∧
      Drains peer source outcome after sent) ∧
    ∀ actions, ∃ outcomes last sent next,
      peer.follow world actions = (outcomes, last, next) ∧
      peer.follow ({ world } : Ledger ω) actions = (outcomes, last, ⟨sent, next⟩) ∧
      .error (.publishing .queueNotDrained) ∉ outcomes ∧ Accounts peer actions sent last := by
  constructor
  · intro source
    obtain ⟨outcome, after, sent, next, ends, published, accounted⟩ :=
      peer.publish_accounted source world
    exact ⟨outcome, after, sent, next, published, accounted, ends.drains⟩
  · intro actions
    obtain ⟨outcomes, last, sent, next, run, followed, accounted⟩ :=
      peer.follow_accounted actions world
    exact ⟨outcomes, last, sent, next, followed, accounted, run.drained, run.accounts⟩

end Peer

end ClauseSharing
