import ClauseSharing.Proofs.Import.Intake
import ClauseSharing.Proofs.Record
import ClauseSharing.Proofs.Store.LocalStore

/-! # Importing keeps meaning exact

An import that ends without a fault leaves a solver that allows just the truth assignments which it
allowed before and under which every popped record holds. If it reports a contradiction, then
nothing that the solver allowed before satisfies the records up to the one that contradicts it, and
the solver is marked (`Peer.importInbox_allows`). The record by record argument is made on the
relation `Intake`. -/

namespace ClauseSharing

namespace Record

/-- Whether the clause that a record holds is true, if the record holds one. -/
def Holds (truth : Truth) (record : String) : Prop :=
  ∀ clause, decode record = .ok clause → Clause.Holds truth clause

/-- Whether a record holds a clause that is not empty. -/
def Reads (record : String) : Prop := ∃ clause, decode record = .ok clause ∧ clause ≠ []

theorem holds_iff {truth : Truth} {record : String} {clause : Clause}
    (read : decode record = .ok clause) : Holds truth record ↔ Clause.Holds truth clause := by
  constructor
  · exact fun holds => holds clause read
  · intro holds other again
    rw [read] at again
    rw [← Except.ok.inj again]
    exact holds

end Record

namespace Intake

theorem satisfiable_of_complete {known last : Knowledge} {records : List String}
    (intake : Intake known records .complete last) : last.satisfiable = known.satisfiable := by
  generalize ends : Ending.complete = ending at intake
  induction intake with
  | complete => rfl
  | unreadable | empty | opposed => cases ends
  | absorbed _ _ unopposed _ ih => exact (ih ends).trans (Knowledge.satisfiable_absorb unopposed)

/-- After the last record, all of them have been read, and what is allowed satisfies all of them. -/
theorem allows_of_complete {known last : Knowledge} {records : List String}
    (intake : Intake known records .complete last) :
    (∀ record ∈ records, Record.Reads record) ∧
      ∀ truth, last.Allows truth ↔
        known.Allows truth ∧ ∀ record ∈ records, Record.Holds truth record := by
  generalize ends : Ending.complete = ending at intake
  induction intake with
  | complete => simp
  | unreadable | empty | opposed => cases ends
  | absorbed read nonempty _ _ ih =>
    obtain ⟨reads, allows⟩ := ih ends
    refine ⟨List.forall_mem_cons.mpr ⟨⟨_, read, nonempty⟩, reads⟩, fun truth => ?_⟩
    rw [allows, Knowledge.allows_absorb, List.forall_mem_cons, Record.holds_iff read, and_assoc]

/-- The records before a contradiction and the unit that brings it about leave nothing allowed. -/
theorem refuted_of_contradicted {known last : Knowledge} {records : List String} {left : Nat}
    (intake : Intake known records (.contradicted left) last) :
    last.satisfiable = false ∧ ∃ earlier conflicting later,
      records = earlier ++ conflicting :: later ∧ later.length = left ∧
      (∀ record ∈ earlier, Record.Reads record) ∧
      (∃ literal, Record.decode conflicting = .ok [literal]) ∧
      ∀ truth, ¬(known.Allows truth ∧ ∀ record ∈ earlier ++ [conflicting],
        Record.Holds truth record) := by
  generalize ends : Ending.contradicted left = ending at intake
  induction intake with
  | complete | unreadable | empty => cases ends
  | @opposed known record rest clause read opposes =>
    cases ends
    obtain ⟨literal, single, _⟩ := id opposes
    refine ⟨rfl, [], record, rest, rfl, rfl, by simp, ⟨literal, single ▸ read⟩, ?_⟩
    rintro truth ⟨allows, hold⟩
    exact allows.not_holds_of_opposes opposes (hold record (List.mem_singleton_self _) clause read)
  | @absorbed known last record rest clause ending read nonempty _ _ ih =>
    obtain ⟨marked, earlier, conflicting, later, split, left, reads, unit, refuted⟩ := ih ends
    refine ⟨marked, record :: earlier, conflicting, later, by rw [split]; rfl, left,
      List.forall_mem_cons.mpr ⟨⟨clause, read, nonempty⟩, reads⟩, unit, ?_⟩
    rintro truth ⟨allows, hold⟩
    obtain ⟨first, others⟩ := List.forall_mem_cons.mp hold
    exact refuted truth
      ⟨Knowledge.allows_absorb.mpr ⟨allows, first clause read⟩, others⟩

end Intake

namespace Peer

variable {σ : Type} [Store σ]

/-- What an import that ends without a fault did: records were popped and taken in. -/
theorem intake_of_importInbox {peer after : Peer LearntKey} {before last : World σ Solver}
    {report : ImportReport} (done : peer.importInbox before = (.ok report, after, last)) :
    ∃ records popped, popInbox peer.config.store.inbox before.store = (.ok records, popped) ∧
      Intake before.host.knowledge records (.of (.ok ()) report) last.host.knowledge := by
  rcases peer.importInbox_cases before with ⟨reason, decided⟩ | ⟨reason, popped, -, unpopped⟩ |
    ⟨records, popped, -, popping, outcome, reported, _, reached, imported, -, intake⟩
  · rw [decided] at done
    cases done
  · rw [unpopped] at done
    cases done
  · rw [imported] at done
    cases outcome with
    | error reason => cases done
    | ok _ =>
      cases done
      exact ⟨records, popped, popping, intake⟩

/-- **Importing keeps meaning exact.** Without a contradiction, the solver allows just what it
allowed before and what satisfies every popped record, all of which are read. With one, nothing that
it allowed before satisfies the records up to the unit that contradicts it, and it is marked. A
solver that was not marked before is marked just if a contradiction is reported. -/
theorem importInbox_allows {peer after : Peer LearntKey} {before last : World σ Solver}
    {report : ImportReport} (done : peer.importInbox before = (.ok report, after, last)) :
    ∃ records popped, popInbox peer.config.store.inbox before.store = (.ok records, popped) ∧
      (report.contradiction = false →
        (∀ record ∈ records, Record.Reads record) ∧
        ∀ truth, last.host.Allows truth ↔
          before.host.Allows truth ∧ ∀ record ∈ records, Record.Holds truth record) ∧
      (report.contradiction = true →
        last.host.satisfiable = false ∧ ∃ earlier conflicting later,
          records = earlier ++ conflicting :: later ∧ later.length = report.discarded ∧
          (∀ record ∈ earlier, Record.Reads record) ∧
          (∃ literal, Record.decode conflicting = .ok [literal]) ∧
          ∀ truth, ¬(before.host.Allows truth ∧ ∀ record ∈ earlier ++ [conflicting],
            Record.Holds truth record)) ∧
      (before.host.satisfiable = true →
        (last.host.satisfiable = false ↔ report.contradiction = true)) := by
  obtain ⟨records, popped, popping, intake⟩ := intake_of_importInbox done
  refine ⟨records, popped, popping, ?_⟩
  simp only [Solver.allows_iff]
  cases contradiction : report.contradiction with
  | false =>
    rw [Ending.of, if_neg (by rw [contradiction]; exact Bool.false_ne_true)] at intake
    have kept : last.host.satisfiable = before.host.satisfiable := intake.satisfiable_of_complete
    refine ⟨fun _ => intake.allows_of_complete, fun raised => absurd raised Bool.false_ne_true, ?_⟩
    intro satisfiable
    rw [kept, satisfiable]
    exact ⟨fun marked => marked.symm, fun raised => raised.symm⟩
  | true =>
    rw [Ending.of, if_pos contradiction] at intake
    obtain ⟨marked, conflict⟩ := intake.refuted_of_contradicted
    refine ⟨fun quiet => absurd quiet.symm Bool.false_ne_true, fun _ => ⟨marked, conflict⟩, ?_⟩
    exact fun _ => iff_of_true marked rfl

/-- A solver that knows nothing, beside an inbox with a unit, a clause, the opposite of the unit and
a text that is no record. -/
def contradictory (config : Config) : World LocalStore Solver where
  store := ({} : LocalStore).setList "to_minisat" ["x", Record.encode [⟨0, false⟩],
    Record.encode [⟨1, true⟩, ⟨2, false⟩], Record.encode [⟨0, true⟩]]
  host := .starting config

theorem importInbox_allows_contradictory :
    ∃ report after last,
      ({} : Peer LearntKey).importInbox (contradictory {}) = (.ok report, after, last) ∧
      report.contradiction = true ∧ report.discarded = 1 ∧ last.host.satisfiable = false := by
  have faultless : (contradictory {}).store.Faultless := ⟨rfl, rfl, rfl⟩
  have inbox : (contradictory {}).store.list "to_minisat" = ["x", Record.encode [⟨0, false⟩],
      Record.encode [⟨1, true⟩, ⟨2, false⟩], Record.encode [⟨0, true⟩]] :=
    (LocalStore.list_setList ..).trans (if_pos rfl)
  have bounded : ((contradictory {}).store.list "to_minisat").length ≤
      (contradictory {}).store.room := by
    rw [inbox]
    decide
  obtain ⟨popped, popping, -⟩ : ∃ popped, popInbox ({} : Peer LearntKey).config.store.inbox
      (contradictory {}).store =
      (.ok ((contradictory {}).store.list "to_minisat").reverse, popped) ∧ _ :=
    LocalStore.popInbox_of_faultless faultless bounded
  obtain ⟨outcome, report, _, last, done, -, intake⟩ := importInbox_of_popInbox rfl popping
  rw [inbox] at intake
  have unvalued : (contradictory {}).host.knowledge.value? 0 = none := Std.ExtTreeMap.getElem?_empty
  have valued := (contradictory {}).host.knowledge.value?_assign ⟨0, true⟩ 0
  rcases (Intake.cons_iff (Record.decode_encode _) (List.cons_ne_nil _ _)).mp intake with
    ⟨against, -⟩ | ⟨-, intake⟩
  · rw [Knowledge.opposes_singleton, unvalued] at against
    exact nomatch against
  rcases (Intake.cons_iff (Record.decode_encode _) (List.cons_ne_nil _ _)).mp intake with
    ⟨against, -⟩ | ⟨-, intake⟩
  · exact absurd against (Knowledge.not_opposes_of_length (by decide))
  rw [Knowledge.absorb_of_none unvalued] at intake
  rcases (Intake.cons_iff (Record.decode_encode _) (List.cons_ne_nil _ _)).mp intake with
    ⟨-, ends, -⟩ | ⟨unopposed, -⟩
  · obtain ⟨rfl, contradiction, discarded⟩ := Ending.of_eq_contradicted.mp ends
    obtain ⟨_, _, _, -, conflict, -⟩ := importInbox_allows done
    exact ⟨report, _, last, done, contradiction, discarded, (conflict contradiction).1⟩
  · exact absurd (Knowledge.opposes_singleton.mpr valued) unopposed

end Peer

end ClauseSharing
