import ClauseSharing.Proofs.Import.Intake
import ClauseSharing.Proofs.Import.Stop
import ClauseSharing.Proofs.Record.Normal
import ClauseSharing.Proofs.Store.LocalStore

/-! # An import in two parts

Records may be taken in at once or in two parts. When the first part has been taken in without a
contradiction, what the second part then does and returns is what is left to do for both, whether it
is taken in as a whole, fails or meets a contradiction: the peer and the world come out the same,
and the report for both joins the reports for the parts (`Peer.integrateAll_append`). Nothing of it
depends on the store, so the same is true of records that are put in an empty inbox and imported at
once or in two parts (`Peer.importPushed_append`). -/

namespace ClauseSharing

namespace ImportReport

/-- What two imports did of which the first one met no contradiction. -/
def join (one other : ImportReport) : ImportReport where
  records := one.records + other.records
  useful := one.useful + other.useful
  redundant := one.redundant + other.redundant
  core := one.core + other.core
  second := one.second + other.second
  active := one.active + other.active
  contradiction := other.contradiction
  discarded := one.discarded + other.discarded

/-- What is reported of clauses that are taken in one after the other is what is reported of each
part. -/
theorem plus_join (front back : Nat) (one other : Tally) :
    plus { records := front + back } (one + other) =
      (plus { records := front } one).join (plus { records := back } other) := by
  have apart (count more : Nat) : 0 + (count + more) = 0 + count + (0 + more) := by omega
  exact ImportReport.ext rfl (apart ..) (apart ..) (apart ..) (apart ..) (apart ..) rfl rfl

end ImportReport

/-- What is counted of clauses that are taken in one after the other is what is counted of each
part. -/
theorem Tally.add_parts (tally one other : Tally) (front back : Nat) :
    tally + { recordsImported := front + back } + (one + other) =
      tally + { recordsImported := front } + one + { recordsImported := back } + other := by
  have apart : ({ recordsImported := front + back } : Tally) =
      { recordsImported := front } + { recordsImported := back } := rfl
  rw [apart]
  ac_rfl

theorem Ending.outcome_join (ending : Ending) {one : ImportReport} (none : one.discarded = 0)
    (other : ImportReport) : ending.outcome (one.join other) =
      (ending.outcome other).map one.join := by
  cases ending with
  | complete => rfl
  | contradicted left =>
    refine congrArg Except.ok (ImportReport.ext rfl rfl rfl rfl rfl rfl rfl ?_)
    simp only [ImportReport.join, none, Nat.zero_add]
  | stopped reason => rfl

namespace ImportProgress

variable {ω κ : Type} [Host ω κ] {settings : TierSettings} {world last : ω}
  {front back earlier later : List String}
  {clauses others : List Clause} {ending : Ending}

/-- Where records are taken in behind others, an import of all of them stops in the same place. -/
theorem Stops.behind (admits : Admits settings world front clauses)
    (stops : Stops settings (worldAfter settings clauses world) back earlier others
      later ending last) :
    Stops settings world (front ++ back) (front ++ earlier)
      (clauses ++ others) later ending last where
  split := by rw [stops.split, List.append_assoc]
  admits := admits.append stops.admits
  ends := by
    rw [worldAfter_append]
    exact stops.ends

end ImportProgress

/-- No change that an import makes to a solver bears on its decisions. -/
theorem Solver.keeps_level {σ : Type} (level : Nat) :
    Host.Keeps fun world : World σ Solver => world.host.assignment.level = level :=
  ⟨fun _ _ same => same, fun _ same => same, fun _ _ _ same => same, fun _ _ _ same => same,
    fun _ _ _ same => same, fun _ _ same => same, fun _ _ same => same, fun _ same => same,
    fun _ _ same => same, fun _ _ same => same, fun _ same => same⟩

namespace Peer

open ImportProgress

section

variable {ω κ : Type} [Host ω κ] {peer first : Peer κ} {world between : ω} {front : List String}
  {report : ImportReport}

/-- Records that are taken in without a contradiction are all taken in. -/
theorem admits_of_integrateAll (done : peer.integrateAll front world = (.ok report, first, between))
    (clean : report.contradiction = false) :
    ∃ clauses, Admits peer.config.tiers world front clauses ∧
      between = worldAfter peer.config.tiers clauses world ∧
      report = .plus { records := front.length } (gains peer.config.tiers world clauses) ∧
      first = { peer with
        tally := peer.tally + { recordsImported := front.length } +
          gains peer.config.tiers world clauses } := by
  obtain ⟨earlier, clauses, later, ending, last, stops⟩ :=
    exists_stops peer.config.tiers front world
  rw [peer.integrateAll_of_stops stops] at done
  obtain ⟨rfl, admits, ends⟩ := stops
  cases ends with
  | complete =>
    cases done
    rw [List.append_nil]
    exact ⟨clauses, admits, rfl, rfl, rfl⟩
  | unreadable _ => cases done
  | empty _ => cases done
  | opposed _ _ =>
    cases done
    cases clean

/-- **Taking in records in two parts is taking them in at once**, whatever host there is and
whatever comes of the second part. -/
theorem integrateAll_append (done : peer.integrateAll front world = (.ok report, first, between))
    (clean : report.contradiction = false) (back : List String) :
    peer.integrateAll (front ++ back) world =
      ((first.integrateAll back between).1.map report.join,
        (first.integrateAll back between).2) := by
  obtain ⟨clauses, admits, rfl, rfl, rfl⟩ := admits_of_integrateAll done clean
  obtain ⟨earlier, others, later, ending, last, stops⟩ :=
    exists_stops peer.config.tiers back (worldAfter peer.config.tiers clauses world)
  have whole := peer.integrateAll_of_stops (stops.behind admits)
  have part := integrateAll_of_stops { peer with
    tally :=
      peer.tally + { recordsImported := front.length } +
        gains peer.config.tiers world clauses } stops
  rw [whole, part, gains_append, List.length_append, ImportReport.plus_join, Tally.add_parts,
    Ending.outcome_join ending rfl]

end

section

variable {σ η κ : Type} [Host η κ]

/-- What taking in records does to a host does not depend on the store beside it. -/
theorem integrateAll_beside (peer : Peer κ) (records : List String) (store other : σ) (host : η) :
    ∃ outcome after last,
      peer.integrateAll records (⟨store, host⟩ : World σ η) = (outcome, after, ⟨store, last⟩) ∧
      peer.integrateAll records (⟨other, host⟩ : World σ η) = (outcome, after, ⟨other, last⟩) := by
  have kept : (peer.integrateAll records (⟨store, host⟩ : World σ η)).2.2.store = store :=
    peer.integrateAll_keeps (World.keeps_store store) records rfl
  have seen := peer.integrateAll_view (World.hostRespects_mapStore fun _ : σ => other) records
    (⟨store, host⟩ : World σ η)
  generalize peer.integrateAll records (⟨store, host⟩ : World σ η) = answer at kept seen
  obtain ⟨outcome, after, last⟩ := answer
  exact ⟨outcome, after, last.host, by rw [← kept], seen⟩

end

/-- Puts records in the inbox and imports what waits there. -/
def importPushed {ω κ : Type} [Store ω] [Host ω κ] (peer : Peer κ)
    (records : List String) (world : ω) :
    Except Fault ImportReport × Peer κ × ω :=
  match peer.pushInbox records world with
  | (.error fault, pushed) => (.error fault, peer, pushed)
  | (.ok _, pushed) => peer.importInbox pushed

section

variable {peer first : Peer LearntKey} {store : LocalStore} {host : Solver}

/-- Records that are put in an empty inbox wait there for an import. -/
theorem importPushed_of_empty (faultless : store.Faultless)
    (empty : store.list peer.config.store.inbox = []) (records : List String) (host : Solver) :
    ∃ pushed : LocalStore, pushed.Faultless ∧ pushed.room = store.room ∧
      pushed.list peer.config.store.inbox = records.reverse ∧
      peer.importPushed records (⟨store, host⟩ : World LocalStore Solver) =
        peer.importInbox ⟨pushed, host⟩ := by
  obtain ⟨length, pushed, pushes, still, -, room, waiting⟩ :=
    LocalStore.pushInbox_of_faultless peer faultless records
  rw [empty, List.append_nil] at waiting
  have beside : peer.pushInbox records (⟨store, host⟩ : World LocalStore Solver) =
      (.ok length, ⟨pushed, host⟩) := by
    rw [World.pushInbox_onStore, World.onStore, pushes]
  refine ⟨pushed, still, room, waiting, ?_⟩
  rw [importPushed, beside]

/-- Records that are put in an empty inbox are taken in at decision level zero, and the inbox is
empty again. -/
theorem importPushed_of_room (faultless : store.Faultless)
    (empty : store.list peer.config.store.inbox = []) (level : host.assignment.level = 0)
    (records : List String) (room : records.length ≤ store.room) :
    ∃ popped : LocalStore, popped.Faultless ∧ popped.room = store.room ∧
      popped.list peer.config.store.inbox = [] ∧
      peer.importPushed records (⟨store, host⟩ : World LocalStore Solver) =
        peer.integrateAll records ⟨popped, host⟩ := by
  obtain ⟨pushed, still, same, waiting, imports⟩ :=
    importPushed_of_empty faultless empty records host
  have bounded : (pushed.list peer.config.store.inbox).length ≤ pushed.room := by
    rw [waiting, List.length_reverse, same]
    exact room
  obtain ⟨popped, pops, poppedStill, -, poppedSame, emptied⟩ :=
    LocalStore.popInbox_of_faultless still bounded
  rw [waiting, List.reverse_reverse] at pops
  have beside : popInbox peer.config.store.inbox (⟨pushed, host⟩ : World LocalStore Solver) =
      (.ok records, ⟨popped, host⟩) := World.popInbox_of_store pops
  exact ⟨popped, poppedStill, poppedSame.trans same, emptied,
    imports.trans (peer.importInbox_of_popped level beside)⟩

/-- **An import may be split.** When records that are put in the empty inbox of a faultless store
are imported without a fault and without a contradiction, importing more of them afterwards comes to
what importing all of them at once comes to: the host and the peer are the same in the end, the same
fault is returned, and otherwise the report for all of them joins the two reports. All of them
together are no more than the store has room for. -/
theorem importPushed_append {front : List String} (back : List String) {report : ImportReport}
    {between : World LocalStore Solver} (faultless : store.Faultless)
    (empty : store.list peer.config.store.inbox = [])
    (room : (front ++ back).length ≤ store.room)
    (done : peer.importPushed front ⟨store, host⟩ = (.ok report, first, between))
    (clean : report.contradiction = false) :
    ∃ outcome after last stored other,
      first.importPushed back between =
        (outcome, after, (⟨stored, last⟩ : World LocalStore Solver)) ∧
      peer.importPushed (front ++ back) ⟨store, host⟩ =
        (outcome.map report.join, after, (⟨other, last⟩ : World LocalStore Solver)) := by
  have level : host.assignment.level = 0 := by
    apply Decidable.byContradiction
    intro decided
    obtain ⟨pushed, -, -, -, imports⟩ := importPushed_of_empty faultless empty front host
    have refused : peer.importInbox (⟨pushed, host⟩ : World LocalStore Solver) = _ :=
      peer.importInbox_of_decided decided
    rw [imports, refused] at done
    cases done
  rw [List.length_append] at room
  obtain ⟨popped, still, same, emptied, imported⟩ :=
    importPushed_of_room faultless empty level front (by omega)
  rw [imported] at done
  have whole := integrateAll_append done clean back
  have beside :
      (peer.integrateAll front (⟨popped, host⟩ : World LocalStore Solver)).2.2.store = popped :=
    peer.integrateAll_keeps (World.keeps_store popped) front rfl
  have unraised : (peer.integrateAll front
      (⟨popped, host⟩ : World LocalStore Solver)).2.2.host.assignment.level = 0 :=
    peer.integrateAll_keeps (Solver.keeps_level 0) front level
  have settings : (peer.integrateAll front (⟨popped, host⟩ : World LocalStore Solver)).2.1.config =
    peer.config := rfl
  rw [done] at beside unraised settings
  obtain ⟨stored, reached⟩ := between
  obtain rfl : popped = stored := beside.symm
  rw [← settings] at emptied
  -- What is left is taken in beside three stores that have been popped in different ways.
  obtain ⟨second, -, -, -, importedBack⟩ :=
    importPushed_of_room still emptied unraised back (by omega)
  obtain ⟨other, -, -, -, importedAll⟩ :=
    importPushed_of_room faultless empty level (front ++ back)
      (by rw [List.length_append]; exact room)
  obtain ⟨outcome, after, last, part, partSecond⟩ :=
    first.integrateAll_beside back popped second reached
  obtain ⟨_, _, _, all, allOther⟩ := peer.integrateAll_beside (front ++ back) popped other host
  rw [part] at whole
  cases all.symm.trans whole
  exact ⟨outcome, after, last, second, other, importedBack.trans partSecond,
    importedAll.trans allOther⟩

/-- Records of a clause that is published time and again. -/
def copiesOf (copies : Nat) : List String :=
  (List.replicate copies [⟨0, true⟩, ⟨1, false⟩, ⟨2, true⟩, ⟨3, true⟩]).map Record.encode

/-- A record that breaks off. -/
def unfinished : String := Record.encodeOpen [⟨0, true⟩]

theorem importPushed_append_unfinished :
    ∃ report first between after last stored other,
      ({} : Peer LearntKey).importPushed (copiesOf 1) ⟨{}, .starting {}⟩ =
        (.ok report, first, between) ∧
      report.contradiction = false ∧
      first.importPushed (copiesOf 2 ++ [unfinished]) between =
        (.error (.record .unterminated), after, (⟨stored, last⟩ : World LocalStore Solver)) ∧
      ({} : Peer LearntKey).importPushed (copiesOf 1 ++ (copiesOf 2 ++ [unfinished]))
        ⟨{}, .starting {}⟩ =
        (.error (.record .unterminated), after, (⟨other, last⟩ : World LocalStore Solver)) := by
  let peer : Peer LearntKey := {}
  have faultless : ({} : LocalStore).Faultless := ⟨rfl, rfl, rfl⟩
  have empty : ({} : LocalStore).list peer.config.store.inbox = [] := Std.ExtTreeMap.getD_empty
  have level : (Solver.starting {}).assignment.level = 0 := rfl
  have admits (copies : Nat) (world : World LocalStore Solver) :
      ∃ clauses, Admits peer.config.tiers world (copiesOf copies) clauses := by
    refine ⟨_, admits_encode world fun clause inside => ?_⟩
    rw [List.eq_of_mem_replicate inside]
    decide
  obtain ⟨popped, -, -, -, imported⟩ :=
    importPushed_of_room faultless empty level (copiesOf 1) (by decide)
  obtain ⟨_, once⟩ := admits 1 ⟨popped, .starting {}⟩
  rw [peer.integrateAll_of_stops ⟨(List.append_nil _).symm, once, .complete⟩] at imported
  obtain ⟨outcome, after, last, stored, other, part, whole⟩ :=
    importPushed_append (copiesOf 2 ++ [unfinished]) faultless empty (by decide) imported rfl
  obtain ⟨popped, -, -, -, all⟩ :=
    importPushed_of_room faultless empty level (copiesOf 3 ++ [unfinished]) (by decide)
  obtain ⟨_, thrice⟩ := admits 3 ⟨popped, .starting {}⟩
  have unread : Record.decode unfinished = .error .unterminated := Record.decode_encodeOpen _
  rw [peer.integrateAll_of_stops ⟨rfl, thrice, .unreadable unread⟩] at all
  have fails := congrArg Prod.fst (whole.symm.trans all)
  cases outcome with
  | ok _ => cases fails
  | error fault =>
    cases fails
    exact ⟨_, _, _, after, last, stored, other, imported, rfl, part, whole⟩

end

end Peer

end ClauseSharing
