import ClauseSharing.Proofs.Import.Frame
import ClauseSharing.Proofs.Solver.Knowledge
import ClauseSharing.Proofs.World

/-! # What an import does to what a solver knows

Seen from what the solver knows, an import absorbs the clauses of its records one after the other,
up to the end of the records, to a unit against what is known by then, or to a record that holds no
clause of at least one literal. This is laid down without counters, tiers or activities as a
relation (`Intake`), and every import follows it whatever it ends with
(`ImportProgress.intake_integrateRecords`). -/

namespace ClauseSharing

/-- How the intake of records ends. -/
inductive Ending where
  /-- After the last record. -/
  | complete
  /-- At a unit against what was known, with so many records after it. -/
  | contradicted (left : Nat)
  /-- At a record that cannot be taken in. -/
  | stopped (reason : Fault)

namespace Ending

/-- How an import ended that returned this outcome with this report. -/
def of (outcome : Except Fault Unit) (report : ImportReport) : Ending :=
  match outcome with
  | .error reason => .stopped reason
  | .ok () => if report.contradiction then .contradicted report.discarded else .complete

theorem of_eq_complete {outcome : Except Fault Unit} {report : ImportReport} :
    of outcome report = .complete ↔ outcome = .ok () ∧ report.contradiction = false := by
  cases outcome with
  | error reason => simp [of]
  | ok _ => by_cases raised : report.contradiction = true <;> simp [of, raised]

theorem of_eq_contradicted {outcome : Except Fault Unit} {report : ImportReport} {left : Nat} :
    of outcome report = .contradicted left ↔
      outcome = .ok () ∧ report.contradiction = true ∧ report.discarded = left := by
  cases outcome with
  | error reason => simp [of]
  | ok _ => by_cases raised : report.contradiction = true <;> simp [of, raised]

end Ending

/-- Which knowledge comes of taking in records, and how that ends. -/
inductive Intake : Knowledge → List String → Ending → Knowledge → Prop where
  | complete {known : Knowledge} : Intake known [] .complete known
  | unreadable {known : Knowledge} {record : String} {rest : List String}
      {reason : Record.ReadError} :
      Record.decode record = .error reason →
      Intake known (record :: rest) (.stopped (.record reason)) known
  | empty {known : Knowledge} {record : String} {rest : List String} :
      Record.decode record = .ok [] →
      Intake known (record :: rest) (.stopped (.importing .emptyRecord)) known
  | opposed {known : Knowledge} {record : String} {rest : List String} {clause : Clause} :
      Record.decode record = .ok clause → known.Opposes clause →
      Intake known (record :: rest) (.contradicted rest.length) known.refute
  | absorbed {known last : Knowledge} {record : String} {rest : List String} {clause : Clause}
      {ending : Ending} :
      Record.decode record = .ok clause → clause ≠ [] → ¬known.Opposes clause →
      Intake (known.absorb clause) rest ending last →
      Intake known (record :: rest) ending last

namespace Intake

variable {known last : Knowledge} {ending : Ending}

theorem nil_iff : Intake known [] ending last ↔ ending = .complete ∧ last = known := by
  constructor
  · rintro ⟨⟩
    exact ⟨rfl, rfl⟩
  · rintro ⟨rfl, rfl⟩
    exact .complete

/-- A record that holds a clause of at least one literal is opposed to what is known, and then it is
the last one, or it is absorbed. -/
theorem cons_iff {record : String} {rest : List String} {clause : Clause}
    (read : Record.decode record = .ok clause) (nonempty : clause ≠ []) :
    Intake known (record :: rest) ending last ↔
      (known.Opposes clause ∧ ending = .contradicted rest.length ∧ last = known.refute) ∨
        (¬known.Opposes clause ∧ Intake (known.absorb clause) rest ending last) := by
  constructor
  · intro intake
    cases intake with
    | unreadable failed => exact absurd (read.symm.trans failed) nofun
    | empty none => exact absurd (Except.ok.inj (read.symm.trans none)) nonempty
    | opposed again against =>
      cases read.symm.trans again
      exact .inl ⟨against, rfl, rfl⟩
    | absorbed again _ unopposed intake =>
      cases read.symm.trans again
      exact .inr ⟨unopposed, intake⟩
  · rintro (⟨against, rfl, rfl⟩ | ⟨unopposed, intake⟩)
    · exact .opposed read against
    · exact .absorbed read nonempty unopposed intake

end Intake

variable {σ : Type}

/-- A step that leaves the store as it is and what the solver knows. -/
structure Untouched (before after : World σ Solver) : Prop where
  store : after.store = before.store
  knowledge : after.host.knowledge = before.host.knowledge

namespace Untouched

variable {first second third : World σ Solver}

theorem refl (world : World σ Solver) : Untouched world world := ⟨rfl, rfl⟩

theorem trans (one : Untouched first second) (two : Untouched second third) :
    Untouched first third :=
  ⟨two.store.trans one.store, two.knowledge.trans one.knowledge⟩

theorem markTier (key : LearntKey) (tier : Tier) (world : World σ Solver) :
    Untouched world (Host.markTier key tier world) :=
  ⟨rfl, Solver.knowledge_markTier world.host key tier⟩

theorem enterTier (key : LearntKey) (tier : Tier) (world : World σ Solver) :
    Untouched world (ImportProgress.enterTier key tier world) := by
  cases tier with
  | core => exact refl world
  | second => exact ⟨rfl, Solver.knowledge_setTouched world.host key _⟩
  | active => exact ⟨rfl, Solver.knowledge_bumpClause world.host key⟩

theorem decayAtoms (world : World σ Solver) :
    Untouched world (if Host.isAdaptive world then Host.decayAtoms world else world) := by
  split
  · exact ⟨rfl, Solver.knowledge_decayAtoms world.host⟩
  · exact refl world

theorem settle (key : LearntKey) (world : World σ Solver) :
    Untouched world (ImportProgress.settle key world) := by
  have attached : Untouched world (Host.attach key world) :=
    ⟨rfl, Solver.knowledge_attach world.host key⟩
  have decayed := attached.trans (decayAtoms (Host.attach key world))
  exact decayed.trans ⟨rfl, Solver.knowledge_decayClauses _⟩

theorem noteCopy (settings : TierSettings) (clause : Clause) (world : World σ Solver) :
    Untouched world (ImportProgress.noteCopy settings clause world).2 := by
  unfold ImportProgress.noteCopy
  split
  · exact ⟨rfl, Solver.knowledge_noteCopy world.host _⟩
  · exact refl world

theorem recordDistance (clause : Clause) (world : World σ Solver) :
    Untouched world (ImportProgress.recordDistance clause world) := by
  unfold ImportProgress.recordDistance
  split
  · exact ⟨rfl, Solver.knowledge_recordDistance world.host _⟩
  · exact refl world

end Untouched

namespace ImportProgress

theorem contradiction_countTier (progress : ImportProgress (World σ Solver)) (tier : Tier) :
    (progress.countTier tier).report.contradiction = progress.report.contradiction := by
  cases tier <;> rfl

/-- What giving a clause to the solver comes to: the clause is absorbed, the store is untouched, and
a contradiction is reported if the clause was opposed to what was known. -/
structure Absorbs (before : ImportProgress (World σ Solver)) (clause : Clause)
    (after : ImportProgress (World σ Solver)) : Prop where
  store : after.world.store = before.world.store
  knowledge : after.world.host.knowledge = before.world.host.knowledge.absorb clause
  contradiction : after.report.contradiction = true ↔
    before.report.contradiction = true ∨ before.world.host.knowledge.Opposes clause

theorem absorbs_integrateUnit (progress : ImportProgress (World σ Solver)) (literal : Literal) :
    Absorbs progress [literal] (progress.integrateUnit literal) := by
  have lookup : Host.value? literal.atom progress.world =
      progress.world.host.knowledge.value? literal.atom := rfl
  unfold integrateUnit
  rw [lookup]
  split
  · rename_i free
    refine ⟨rfl, (Knowledge.absorb_of_none free).symm, ?_⟩
    constructor
    · exact .inl
    · rintro (before | against)
      · exact before
      · rw [Knowledge.opposes_singleton, free] at against
        exact nomatch against
  · rename_i value found
    by_cases same : value = literal.positive
    · rw [if_pos same]
      rw [same] at found
      refine ⟨rfl, (Knowledge.absorb_of_same found).symm, ?_⟩
      constructor
      · exact .inl
      · rintro (before | against)
        · exact before
        · rw [Knowledge.opposes_singleton, found] at against
          exact absurd (Option.some.inj against).symm (Bool.not_eq_self _).mp
    · rw [if_neg same]
      have against : progress.world.host.knowledge.Opposes [literal] := by
        rw [Knowledge.opposes_singleton, found, Bool.eq_not_of_ne same]
      exact ⟨rfl, (Knowledge.absorb_of_opposes against).symm, iff_of_true rfl (.inr against)⟩

theorem contradiction_lifted (progress : ImportProgress (World σ Solver)) (reached : Prop)
    [Decidable reached] :
    (if reached then progress.countLifted else progress).report.contradiction =
      progress.report.contradiction := by
  split <;> rfl

theorem absorbs_integrateClause (settings : TierSettings)
    (progress : ImportProgress (World σ Solver)) {clause : Clause} (plural : clause.length ≠ 1) :
    Absorbs progress clause (progress.integrateClause settings clause) := by
  let stored : LearntKey × World σ Solver := Host.allocate clause clause.distance progress.world
  have knows : stored.2.host.knowledge = progress.world.host.knowledge.store clause :=
    Solver.knowledge_allocate progress.world.host clause clause.distance
  let noted := noteCopy settings clause stored.2
  let tier := Tier.classify settings clause.distance noted.1
  have untouched : Untouched stored.2
      (settle stored.1 (enterTier stored.1 tier (Host.markTier stored.1 tier noted.2))) :=
    (((Untouched.noteCopy settings clause stored.2).trans (.markTier stored.1 tier noted.2)).trans
      (.enterTier stored.1 tier _)).trans (.settle stored.1 _)
  have reaches : (progress.integrateClause settings clause).world =
      settle stored.1 (enterTier stored.1 tier (Host.markTier stored.1 tier noted.2)) :=
    world_integrateClause settings progress clause
  refine ⟨?_, ?_, ?_⟩
  · rw [reaches, untouched.store]
    rfl
  · rw [reaches, untouched.knowledge, knows, Knowledge.absorb_of_length plural]
  · have reports : (progress.integrateClause settings clause).report.contradiction =
        progress.report.contradiction := by
      unfold integrateClause
      simp only [act, contradiction_countTier, contradiction_lifted]
    rw [reports]
    constructor
    · exact .inl
    · rintro (before | against)
      · exact before
      · exact absurd against (Knowledge.not_opposes_of_length plural)

theorem Absorbs.of_untouched {before told after : ImportProgress (World σ Solver)}
    {clause : Clause} (absorbs : Absorbs told clause after)
    (untouched : Untouched before.world told.world)
    (reports : told.report.contradiction = before.report.contradiction) :
    Absorbs before clause after where
  store := absorbs.store.trans untouched.store
  knowledge := by rw [absorbs.knowledge, untouched.knowledge]
  contradiction := by rw [absorbs.contradiction, untouched.knowledge, reports]

theorem absorbs_integrate (settings : TierSettings) (progress : ImportProgress (World σ Solver))
    {clause : Clause} (nonempty : clause ≠ []) :
    ∃ next, progress.integrate settings clause = (.ok (), next) ∧ Absorbs progress clause next := by
  have untouched := Untouched.recordDistance clause progress.world
  match clause, nonempty with
  | [literal], _ =>
    have absorbs := absorbs_integrateUnit (progress.act (recordDistance [literal])) literal
    exact ⟨_, rfl, absorbs.of_untouched untouched rfl⟩
  | first :: second :: rest, _ =>
    have plural : (first :: second :: rest).length ≠ 1 := Nat.succ_succ_ne_one _
    have absorbs := absorbs_integrateClause settings
      (progress.act (recordDistance (first :: second :: rest))) plural
    exact ⟨_, rfl, absorbs.of_untouched untouched rfl⟩

/-- **Every import is an intake.** Whatever an import ends with, the solver then knows what comes of
taking in the records, and the store is as it was before. -/
theorem intake_integrateRecords (settings : TierSettings) (records : List String)
    (progress : ImportProgress (World σ Solver)) (clean : progress.report.contradiction = false) :
    ∃ outcome next, progress.integrateRecords settings records = (outcome, next) ∧
      next.world.store = progress.world.store ∧
      Intake progress.world.host.knowledge records (.of outcome next.report)
        next.world.host.knowledge := by
  induction records generalizing progress with
  | nil =>
    refine ⟨.ok (), progress, rfl, rfl, ?_⟩
    rw [Ending.of, clean]
    exact .complete
  | cons record rest ih =>
    rw [integrateRecords_cons]
    cases read : Record.decode record with
    | error reason => exact ⟨_, progress, rfl, rfl, .unreadable read⟩
    | ok clause =>
      by_cases nonempty : clause = []
      · subst nonempty
        have untouched := Untouched.recordDistance [] progress.world
        refine ⟨.error (.importing .emptyRecord), progress.act (recordDistance []), rfl,
          untouched.store, ?_⟩
        change Intake _ _ _ (recordDistance [] progress.world).host.knowledge
        rw [untouched.knowledge]
        exact .empty read
      · obtain ⟨next, integrated, absorbs⟩ := absorbs_integrate settings progress nonempty
        simp only [integrated]
        by_cases opposed : progress.world.host.knowledge.Opposes clause
        · have contradicted := absorbs.contradiction.mpr (.inr opposed)
          rw [if_pos contradicted]
          refine ⟨_, _, rfl, absorbs.store, ?_⟩
          rw [Ending.of, if_pos contradicted, absorbs.knowledge,
            Knowledge.absorb_of_opposes opposed]
          exact .opposed read opposed
        · have goesOn : next.report.contradiction = false := by
            rw [Bool.eq_false_iff, ne_eq, absorbs.contradiction, clean]
            rintro (raised | against)
            · exact Bool.false_ne_true raised
            · exact opposed against
          obtain ⟨outcome, last, reached, store, intake⟩ := ih next goesOn
          rw [if_neg (by rw [goesOn]; exact Bool.false_ne_true), reached]
          refine ⟨outcome, last, rfl, store.trans absorbs.store, ?_⟩
          rw [absorbs.knowledge] at intake
          exact .absorbed read nonempty opposed intake

end ImportProgress

namespace Peer

theorem intake_integrateAll (peer : Peer LearntKey) (records : List String)
    (world : World σ Solver) :
    ∃ outcome report tally last,
      peer.integrateAll records world =
        (outcome.map fun _ => report, { peer with tally }, last) ∧
      last.store = world.store ∧
      Intake world.host.knowledge records (.of outcome report) last.host.knowledge := by
  have imported := ImportProgress.intake_integrateRecords peer.config.tiers records
    (⟨{ peer.tally with recordsImported := peer.tally.recordsImported + records.length },
      { records := records.length }, world⟩ : ImportProgress (World σ Solver)) rfl
  obtain ⟨outcome, next, reached, store, intake⟩ := imported
  refine ⟨outcome, next.report, next.tally, next.world, ?_, store, intake⟩
  simp only [integrateAll, reached]

variable [Store σ]

/-- Popped records are taken in by the solver. -/
theorem importInbox_of_popInbox {peer : Peer LearntKey} {world : World σ Solver}
    (level : world.host.assignment.level = 0) {records : List String} {popped : σ}
    (popping : popInbox peer.config.store.inbox world.store = (.ok records, popped)) :
    ∃ outcome report tally last,
      peer.importInbox world = (outcome.map fun _ => report, { peer with tally }, last) ∧
      last.store = popped ∧
      Intake world.host.knowledge records (.of outcome report) last.host.knowledge := by
  rw [peer.importInbox_of_popped level (World.popInbox_of_store popping)]
  exact intake_integrateAll peer records ⟨popped, world.host⟩

/-- An import that takes in no records leaves the solver as it is. -/
theorem importInbox_untaken_or_taken (peer : Peer LearntKey) (world : World σ Solver) :
    (∃ reason last, last.host = world.host ∧ peer.importInbox world = (.error reason, peer, last)) ∨
      ∃ records popped, popped.host = world.host ∧ world.host.assignment.level = 0 ∧
        peer.importInbox world = peer.integrateAll records popped := by
  by_cases level : world.host.assignment.level = 0
  · have host := World.host_popInbox peer.config.store.inbox world
    cases popping : popInbox peer.config.store.inbox world with
    | mk outcome popped =>
      rw [popping] at host
      cases outcome with
      | error reason => exact .inl ⟨_, popped, host, peer.importInbox_of_unpopped level popping⟩
      | ok records =>
        exact .inr ⟨records, popped, host, level, peer.importInbox_of_popped level popping⟩
  · exact .inl ⟨_, world, rfl, peer.importInbox_of_decided level⟩

/-- An import finds the host above level zero, or gets no records, or takes in those that it
gets. -/
theorem importInbox_cases (peer : Peer LearntKey) (world : World σ Solver) :
    (∃ reason, peer.importInbox world = (.error reason, peer, world)) ∨
    (∃ reason popped, popInbox peer.config.store.inbox world.store = (.error reason, popped) ∧
      peer.importInbox world = (.error (.store reason), peer, ⟨popped, world.host⟩)) ∨
    ∃ records popped, world.host.assignment.level = 0 ∧
      popInbox peer.config.store.inbox world.store = (.ok records, popped) ∧
      ∃ outcome report tally last,
        peer.importInbox world = (outcome.map fun _ => report, { peer with tally }, last) ∧
        last.store = popped ∧
        Intake world.host.knowledge records (.of outcome report) last.host.knowledge := by
  by_cases level : world.host.assignment.level = 0
  · cases popping : popInbox peer.config.store.inbox world.store with
    | mk outcome popped =>
      cases outcome with
      | error reason =>
        have reached := peer.importInbox_of_unpopped level (World.popInbox_of_store popping)
        exact .inr (.inl ⟨reason, popped, rfl, reached⟩)
      | ok records =>
        exact .inr (.inr ⟨records, popped, level, rfl, importInbox_of_popInbox level popping⟩)
  · exact .inl ⟨_, peer.importInbox_of_decided level⟩

end Peer

end ClauseSharing
