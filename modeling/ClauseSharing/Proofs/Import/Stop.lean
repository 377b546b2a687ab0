import ClauseSharing.Observation.Scripted
import ClauseSharing.Proofs.Import.Frame
import ClauseSharing.Proofs.Import.Intake
import ClauseSharing.Proofs.Record

/-! # Where an import stops

The records that an import pops are taken in one after the other, up to the first one that cannot be
read, that holds the empty clause, or that holds a unit against the values of the host at that
point. What is left is what taking in the records in front of that one leaves, with the little that
the kind of the offence adds. Of the records behind it nothing is used but how many they are
(`Peer.importInbox_stops`). -/

namespace ClauseSharing

namespace Ending

/-- What an import counts of its ending. -/
def conflicts : Ending → Tally
  | .contradicted _ => { unitsConflicting := 1 }
  | .complete | .stopped _ => {}

/-- What an import returns, given what it reports of the records that were taken in. -/
def outcome (report : ImportReport) : Ending → Except Fault ImportReport
  | .complete => .ok report
  | .contradicted left => .ok { report with contradiction := true, discarded := left }
  | .stopped reason => .error reason

end Ending

namespace ImportProgress

variable {ω κ : Type} [Host ω κ] {settings : TierSettings}

/-- Whether a record ends the import that comes to it in this world. -/
inductive Offends (world : ω) (record : String) : Prop where
  | unreadable {reason : Record.ReadError} :
      Record.decode record = .error reason → Offends world record
  | empty : Record.decode record = .ok [] → Offends world record
  | opposed {clause : Clause} :
      Record.decode record = .ok clause → Opposes world clause → Offends world record

theorem not_offends {world : ω} {record : String} {clause : Clause}
    (read : Record.decode record = .ok clause) (nonempty : clause ≠ [])
    (unopposed : ¬Opposes world clause) : ¬Offends world record := by
  rintro (failed | none | ⟨again, against⟩)
  · exact nomatch read.symm.trans failed
  · exact nonempty (Except.ok.inj (read.symm.trans none))
  · exact unopposed (Except.ok.inj (read.symm.trans again) ▸ against)

/-- The world after clauses have been given to the host one after the other. -/
def worldAfter (settings : TierSettings) (clauses : List Clause) (world : ω) : ω :=
  clauses.foldl (fun world clause => effect settings clause world) world

/-- What clauses add to the counts that are taken in one after the other. -/
def gains (settings : TierSettings) (world : ω) : List Clause → Tally
  | [] => {}
  | clause :: clauses =>
    gain settings world clause + gains settings (effect settings clause world) clauses

theorem worldAfter_append (settings : TierSettings) (front back : List Clause) (world : ω) :
    worldAfter settings (front ++ back) world = worldAfter settings back
      (worldAfter settings front world) :=
  List.foldl_append

theorem gains_append (settings : TierSettings) (front back : List Clause) (world : ω) :
    gains settings world (front ++ back) =
      gains settings world front + gains settings (worldAfter settings front world) back := by
  induction front generalizing world with
  | nil => exact (Tally.zero_add _).symm
  | cons clause front ih =>
    rw [List.cons_append, gains, ih, ← Tally.add_assoc]
    rfl

/-- Records that hold these clauses, and none of which ends the import when it is its turn. -/
inductive Admits (settings : TierSettings) : ω → List String → List Clause → Prop where
  | none {world : ω} : Admits settings world [] []
  | more {world : ω} {record : String} {records : List String} {clause : Clause}
      {clauses : List Clause} :
      Record.decode record = .ok clause → ¬Offends world record →
      Admits settings (effect settings clause world) records clauses →
      Admits settings world (record :: records) (clause :: clauses)

theorem Admits.nonempty {world : ω} {records : List String} {clauses : List Clause}
    (admits : Admits settings world records clauses) : ∀ clause ∈ clauses, clause ≠ [] := by
  induction admits with
  | none => exact fun _ inside => absurd inside List.not_mem_nil
  | more read unoffending _ ih =>
    refine List.forall_mem_cons.mpr ⟨?_, ih⟩
    rintro rfl
    exact unoffending (.empty read)

theorem Admits.decoded {world : ω} {records : List String} {clauses : List Clause}
    (admits : Admits settings world records clauses) :
    records.map Record.decode = clauses.map Except.ok := by
  induction admits with
  | none => rfl
  | more read _ _ ih => rw [List.map_cons, List.map_cons, read, ih]

theorem Admits.append {world : ω} {front back : List String} {clauses others : List Clause}
    (admits : Admits settings world front clauses)
    (behind : Admits settings (worldAfter settings clauses world) back others) :
    Admits settings world (front ++ back) (clauses ++ others) := by
  induction admits with
  | none => exact behind
  | more read unoffending _ ih => exact .more read unoffending (ih behind)

/-- Clauses of two literals or more are taken in from whatever world. -/
theorem admits_encode (world : ω) {clauses : List Clause}
    (plural : ∀ clause ∈ clauses, 2 ≤ clause.length) :
    Admits settings world (clauses.map Record.encode) clauses := by
  induction clauses generalizing world with
  | nil => exact .none
  | cons clause rest ih =>
    obtain ⟨first, others⟩ := List.forall_mem_cons.mp plural
    have read := Record.decode_encode clause
    have nonempty : clause ≠ [] := List.length_pos_iff.mp (by omega)
    have unopposed : ¬Opposes world clause := not_opposes_of_length (by omega)
    exact .more read (not_offends read nonempty unopposed) (ih _ others)

/-- How an import ends at the first of the records that are left, and the world that it leaves. -/
inductive Ends (world : ω) : List String → Ending → ω → Prop where
  | complete : Ends world [] .complete world
  | unreadable {record : String} {later : List String} {reason : Record.ReadError} :
      Record.decode record = .error reason →
      Ends world (record :: later) (.stopped (.record reason)) world
  | empty {record : String} {later : List String} :
      Record.decode record = .ok [] →
      Ends world (record :: later) (.stopped (.importing .emptyRecord))
        (if Host.isAdaptive world then Host.recordDistance 0 world else world)
  | opposed {record : String} {later : List String} {literal : Literal} :
      Record.decode record = .ok [literal] → Opposes world [literal] →
      Ends world (record :: later) (.contradicted later.length)
        (Host.setUnsatisfiable
          (if Host.isAdaptive world then Host.recordDistance 1 world else world))

theorem Ends.offends {world last : ω} {records : List String} {ending : Ending}
    (ends : Ends world records ending last) : ∀ record ∈ records.head?, Offends world record := by
  rintro record first
  cases ends with
  | complete => exact nomatch first
  | unreadable failed => cases first; exact .unreadable failed
  | empty none => cases first; exact .empty none
  | opposed read against => cases first; exact .opposed read against

/-- What comes behind the record that ends an import matters by its length only. -/
theorem Ends.congr {world last : ω} {records other : List String} {ending : Ending}
    (ends : Ends world records ending last) (length : other.length = records.length)
    (head : other.head? = records.head?) : Ends world other ending last := by
  cases ends with
  | complete =>
    rw [List.length_eq_zero_iff.mp length]
    exact .complete
  | @unreadable record later reason failed =>
    obtain ⟨rest, rfl⟩ := List.head?_eq_some_iff.mp head
    exact .unreadable failed
  | empty none =>
    obtain ⟨rest, rfl⟩ := List.head?_eq_some_iff.mp head
    exact .empty none
  | opposed read against =>
    obtain ⟨rest, rfl⟩ := List.head?_eq_some_iff.mp head
    rw [← Nat.succ.inj length]
    exact .opposed read against

/-- Where an import stops: the clauses of the records in front are taken in one after the other, and
it ends at the first of those that are left. -/
structure Stops (settings : TierSettings) (world : ω) (records earlier : List String)
    (clauses : List Clause) (later : List String) (ending : Ending) (last : ω) : Prop where
  split : records = earlier ++ later
  admits : Admits settings world earlier clauses
  ends : Ends (worldAfter settings clauses world) later ending last

/-- Other records that agree up to the one at which an import stops stop it in the same place. -/
theorem Stops.congr {world last : ω} {records earlier later other : List String}
    {clauses : List Clause} {ending : Ending}
    (stops : Stops settings world records earlier clauses later ending last)
    (length : other.length = records.length)
    (front : other.take (earlier.length + 1) = records.take (earlier.length + 1)) :
    Stops settings world other earlier clauses (other.drop earlier.length) ending last := by
  obtain ⟨rfl, admits, ends⟩ := stops
  have same : other.take earlier.length = earlier := by
    have shorter := congrArg (List.take earlier.length) front
    rw [List.take_take, List.take_take, Nat.min_eq_left (Nat.le_succ _)] at shorter
    rw [shorter, List.take_left]
  refine ⟨?_, admits, ends.congr ?_ ?_⟩
  · conv => lhs; rw [← List.take_append_drop earlier.length other, same]
  · rw [List.length_drop, length, List.length_append, Nat.add_sub_cancel_left]
  · have next := congrArg (fun list => list[earlier.length]?) front
    simp only [List.getElem?_take_of_lt (Nat.lt_succ_self _)] at next
    rw [List.head?_drop, next, List.getElem?_append_right (Nat.le_refl _), Nat.sub_self,
      List.head?_eq_getElem?]

/-- Every import stops somewhere, at the latest behind the last record. -/
theorem exists_stops (settings : TierSettings) (records : List String) (world : ω) :
    ∃ earlier clauses later ending last,
      Stops settings world records earlier clauses later ending last := by
  induction records generalizing world with
  | nil => exact ⟨[], [], [], _, world, rfl, .none, .complete⟩
  | cons record rest ih =>
    by_cases offends : Offends world record
    · have ends : ∃ ending last, Ends world (record :: rest) ending last := by
        cases offends with
        | unreadable failed => exact ⟨_, _, .unreadable failed⟩
        | empty none => exact ⟨_, _, .empty none⟩
        | opposed read against =>
          obtain ⟨literal, rfl, -⟩ := id against
          exact ⟨_, _, .opposed read against⟩
      obtain ⟨ending, last, ends⟩ := ends
      exact ⟨[], [], record :: rest, ending, last, rfl, .none, ends⟩
    · cases read : Record.decode record with
      | error reason => exact absurd (.unreadable read) offends
      | ok clause =>
        obtain ⟨earlier, clauses, later, ending, last, rfl, admits, ends⟩ :=
          ih (effect settings clause world)
        exact ⟨record :: earlier, clause :: clauses, later, ending, last, rfl,
          .more read offends admits, ends⟩

section

variable {earlier later : List String} {clauses : List Clause} {ending : Ending} {last : ω}

theorem integrateRecords_of_ends {progress : ImportProgress ω}
    (ends : Ends progress.world later ending last) :
    let after := progress.integrateRecords settings later
    after.1.map (fun _ => after.2.report) = ending.outcome progress.report ∧
      after.2.tally = progress.tally + ending.conflicts ∧ after.2.world = last := by
  cases ends with
  | complete => exact ⟨rfl, rfl, rfl⟩
  | unreadable failed =>
    rw [integrateRecords_cons, failed]
    exact ⟨rfl, rfl, rfl⟩
  | empty none =>
    rw [integrateRecords_cons, none]
    exact ⟨rfl, rfl, rfl⟩
  | opposed read against =>
    rw [integrateRecords_cons, read]
    dsimp only
    rw [integrate_of_opposed progress against]
    exact ⟨rfl, rfl, rfl⟩

/-- Taking in records and then coming to an end gives what the parts give. -/
theorem integrateRecords_of_admits {progress : ImportProgress ω}
    (admits : Admits settings progress.world earlier clauses)
    (ends : Ends (worldAfter settings clauses progress.world) later ending last)
    (clean : progress.report.contradiction = false) :
    let after := progress.integrateRecords settings (earlier ++ later)
    after.1.map (fun _ => after.2.report) =
        ending.outcome (progress.report.plus (gains settings progress.world clauses)) ∧
      after.2.tally =
        progress.tally + gains settings progress.world clauses + ending.conflicts ∧
      after.2.world = last := by
  generalize start : progress.world = world at admits ends
  induction admits generalizing progress with
  | none =>
    subst start
    exact integrateRecords_of_ends ends
  | @more world record records clause clauses read unoffending _ ih =>
    subst start
    have nonempty : clause ≠ [] := by
      rintro rfl
      exact unoffending (.empty read)
    have unopposed : ¬Opposes progress.world clause := fun against =>
      unoffending (.opposed read against)
    have taken : progress.integrate settings clause = _ :=
      integrate_of_unopposed nonempty progress unopposed
    let next : ImportProgress ω := ⟨progress.tally + gain settings progress.world clause,
      progress.report.plus (gain settings progress.world clause),
      effect settings clause progress.world⟩
    obtain ⟨outcome, tally, reached⟩ := @ih next clean rfl ends
    rw [List.cons_append, integrateRecords_cons, read]
    dsimp only
    rw [taken]
    dsimp only
    rw [if_neg (by rw [ImportReport.plus, clean]; exact Bool.false_ne_true)]
    rw [ImportReport.plus_plus] at outcome
    rw [Tally.add_assoc progress.tally] at tally
    exact ⟨outcome, tally, reached⟩

end

end ImportProgress

namespace Peer

open ImportProgress

variable {ω κ : Type} [Host ω κ]

/-- What an import leaves that stops in this place, and what it returns. -/
theorem integrateAll_of_stops (peer : Peer κ) {world last : ω} {records earlier later : List String}
    {clauses : List Clause} {ending : Ending}
    (stops : Stops peer.config.tiers world records earlier clauses later ending last) :
    peer.integrateAll records world =
      (ending.outcome (ImportReport.plus { records := records.length }
          (gains peer.config.tiers world clauses)),
        { peer with
          tally := peer.tally + { recordsImported := records.length } +
            gains peer.config.tiers world clauses + ending.conflicts }, last) := by
  obtain ⟨rfl, admits, ends⟩ := stops
  let start : ImportProgress ω :=
    ⟨peer.tally + { recordsImported := (earlier ++ later).length },
      { records := (earlier ++ later).length }, world⟩
  have admitted : Admits peer.config.tiers start.world earlier clauses := admits
  obtain ⟨outcome, tally, reached⟩ := integrateRecords_of_admits admitted ends rfl
  rw [← outcome, ← tally, ← reached]
  rfl

variable [Store ω]

/-- **An import stops at the first offence.** When records have been popped at decision level zero,
there is a first one that offends, or none does, and in any case those in front of it have been
taken in one after the other. The world, the counts and the outcome are what this gives, with what
the kind of the ending adds, and they do not depend on what any record behind it holds. -/
theorem importInbox_stops {peer : Peer κ} {world popped : ω} {records : List String}
    (level : Host.decisionLevel world = 0)
    (popping : popInbox peer.config.store.inbox world = (.ok records, popped)) :
    (∃ earlier clauses later ending last,
      Stops peer.config.tiers popped records earlier clauses later ending last) ∧
    (∀ earlier clauses later ending last,
      Stops peer.config.tiers popped records earlier clauses later ending last →
      (∀ record ∈ later.head?, Offends (worldAfter peer.config.tiers clauses popped) record) ∧
      peer.importInbox world =
        (ending.outcome (ImportReport.plus { records := records.length }
            (gains peer.config.tiers popped clauses)),
          { peer with
            tally := peer.tally + { recordsImported := records.length } +
              gains peer.config.tiers popped clauses + ending.conflicts }, last) ∧
      ∀ other : List String, other.length = records.length →
        other.take (earlier.length + 1) = records.take (earlier.length + 1) →
        peer.integrateAll other popped = peer.importInbox world) ∧
    (KeepsValues ω → ∀ (reached : ω) (literal : Literal),
      Opposes reached [literal] ↔ Host.value? literal.atom reached = some (!literal.positive)) := by
  have imported := peer.importInbox_of_popped level popping
  refine ⟨exists_stops _ records popped, ?_, fun keeps _ _ => opposes_iff_of_keepsValues keeps⟩
  intro earlier clauses later ending last stops
  rw [imported]
  refine ⟨stops.ends.offends, integrateAll_of_stops peer stops, fun other length front => ?_⟩
  rw [integrateAll_of_stops peer stops, integrateAll_of_stops peer (stops.congr length front),
    length]

/-- A host that knows nothing, beside a store that gives out these records. -/
def scripted (records : List String) : World ScriptedStore ScriptedHost where
  store := { length := some records.length, records := some records }
  host := {}

/-- A unit, a clause, the opposite of the unit, and a text that is no record. -/
def quarrelsome : List String :=
  [Record.encode [⟨0, true⟩], Record.encode [⟨1, true⟩, ⟨2, false⟩],
    Record.encode [⟨0, false⟩], "x"]

theorem importInbox_stops_quarrelsome :
    Host.decisionLevel (scripted quarrelsome) = 0 ∧
      popInbox "to_minisat" (scripted quarrelsome) = (.ok quarrelsome, scripted quarrelsome) ∧
      KeepsValues (World ScriptedStore ScriptedHost) ∧
      ∃ last, ({} : Peer Nat).importInbox (scripted quarrelsome) =
        (.ok { records := 4, useful := 1, core := 1, contradiction := true, discarded := 1 },
          { tally := { recordsImported := 4, unitsUseful := 1, unitsConflicting := 1,
                       importedCore := 1 } }, last) := by
  have level : Host.decisionLevel (scripted quarrelsome) = 0 := rfl
  have popping : popInbox ({} : Peer Nat).config.store.inbox (scripted quarrelsome) =
      (.ok quarrelsome, scripted quarrelsome) := rfl
  obtain ⟨-, stops, -⟩ := importInbox_stops level popping
  have unit : ¬Opposes (scripted quarrelsome) [⟨0, true⟩] := by
    rw [opposes_singleton]
    decide +kernel
  have admits : Admits ({} : TierSettings) (scripted quarrelsome)
      [Record.encode [⟨0, true⟩], Record.encode [⟨1, true⟩, ⟨2, false⟩]]
      [[⟨0, true⟩], [⟨1, true⟩, ⟨2, false⟩]] := by
    refine .more (Record.decode_encode _) ?_ (.more (Record.decode_encode _) ?_ .none)
    · exact not_offends (Record.decode_encode _) (List.cons_ne_nil _ _) unit
    · exact not_offends (Record.decode_encode _) (List.cons_ne_nil _ _)
        (not_opposes_of_length (by decide))
  have ends : Ends (worldAfter ({} : TierSettings) [[⟨0, true⟩], [⟨1, true⟩, ⟨2, false⟩]]
      (scripted quarrelsome)) [Record.encode [⟨0, false⟩], "x"] (.contradicted 1) _ :=
    .opposed (Record.decode_encode _) (opposes_singleton.mpr (by decide +kernel))
  obtain ⟨-, imported, -⟩ := stops _ _ _ _ _ ⟨rfl, admits, ends⟩
  have counted : gains ({} : TierSettings) (scripted quarrelsome)
      [[⟨0, true⟩], [⟨1, true⟩, ⟨2, false⟩]] = { unitsUseful := 1, importedCore := 1 } := by
    decide +kernel
  rw [show ({} : Peer Nat).config.tiers = {} from rfl, counted] at imported
  exact ⟨level, popping, fun _ _ _ => rfl, _, imported⟩

end Peer

end ClauseSharing
