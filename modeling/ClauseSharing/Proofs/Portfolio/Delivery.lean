import ClauseSharing.Proofs.Import.Units
import ClauseSharing.Proofs.Portfolio.Routing
import ClauseSharing.Proofs.Publish.Exact

/-! # Delivery is exact

What one instance publishes in a faultless store, another one imports, if it is passed on in order
of identifiers (`Peer.delivery_exact`): the units in order, and then, literal for literal and in
order, the clauses that are not too long. The argument goes through the texts: those published are
the records of the units and of the clauses (`Peer.publish_of_faultless`), they are popped in the
order in which they were pushed (`Peer.importInbox_of_pushInbox`), and taking them in is what
`Intake` says of them. -/

namespace ClauseSharing

namespace Peer

variable {store : LocalStore} {sender receiver : Peer LearntKey}

/-- The records of all that waits, but of clauses that are too long. -/
def texts (peer : Peer LearntKey) (source : LearntKey → Option Clause) : List String :=
  peer.outbox.units.map Record.encodeUnit ++ (peer.sharedClauses source).map Record.encode

/-- A peer publishes its records in order in a store that holds none of it yet. -/
theorem publish_of_faultless (faultless : store.Faultless)
    (fresh : publishedUnder sender.config.store.stem store = []) {source : Solver}
    (positive : 0 < sender.config.batchWidth)
    (shareable : ∀ key ∈ sender.outbox.clauses, Publish.Shareable source.literals? key)
    (room : sender.outbox.units.length + (sender.sharedClauses source.literals?).length ≤
      sender.counter.remaining) :
    ∃ report after stored, sender.publish source.literals? ⟨store, source⟩ =
        (.ok report, after, (⟨stored, source⟩ : World LocalStore Solver)) ∧
      stored.Faultless ∧ stored.lists = store.lists ∧ stored.room = store.room ∧
      publishedUnder sender.config.store.stem stored = sender.texts source.literals? := by
  cases waiting : sender.outbox.isEmpty with
  | true =>
    refine ⟨{}, sender, store, if_pos waiting, faultless, rfl, rfl, ?_⟩
    obtain ⟨units, clauses⟩ := Bool.and_eq_true_iff.mp waiting
    rw [fresh, texts, sharedClauses, List.isEmpty_iff.mp units, List.isEmpty_iff.mp clauses]
    rfl
  | false =>
    obtain ⟨connected, connects, still, values, lists, roomConnected⟩ :=
      LocalStore.connect_of_faultless faultless
    obtain ⟨written, acknowledged, without, kept, roomWritten, holds⟩ :=
      LocalStore.acknowledges still (sender.batches source.literals?)
    have connectsBeside : Store.connect (⟨store, source⟩ : World LocalStore Solver) =
        (.ok (), ⟨connected, source⟩) := by
      change World.onStore Store.connect _ = _
      rw [World.onStore, connects]
    have done := publish_of_acknowledges waiting positive shareable room connectsBeside
      (acknowledged.beside source)
    have whole : (sender.batches source.literals?).flatten =
        sender.config.store.numbered sender.counter.next (sender.texts source.literals?) := by
      rw [batches, List.flatten_append, (cutInto_piecesOf positive _).flatten,
        (cutInto_piecesOf positive _).flatten, unitWrites_append_clauseWrites]
      rfl
    rw [whole, values] at holds
    have bounded : sender.counter.next + (sender.texts source.literals?).length ≤ 4294967295 := by
      have limited := sender.counter.next_le
      rw [texts, List.length_append, List.length_map, List.length_map]
      change _ ≤ 4294967295 - sender.counter.next at room
      omega
    refine ⟨_, _, written.release, done, ⟨without.reachable, without.replies, without.pops⟩,
      kept.trans lists, roomWritten.trans roomConnected, ?_⟩
    exact publishedUnder_of_numbered fresh bounded holds

/-- Records that are put in an empty inbox are taken in in the order in which they were given. -/
theorem importInbox_of_pushInbox (faultless : store.Faultless)
    (empty : store.list receiver.config.store.inbox = []) {records : List String}
    (bounded : records.length ≤ store.room) {host : Solver}
    (level : host.assignment.level = 0) :
    ∃ length delivered outcome report tally last,
      receiver.pushInbox records ⟨store, host⟩ =
        (.ok length, (⟨delivered, host⟩ : World LocalStore Solver)) ∧
      receiver.importInbox (⟨delivered, host⟩ : World LocalStore Solver) =
        (outcome.map fun _ => report, { receiver with tally }, last) ∧
      Intake host.knowledge records (.of outcome report) last.host.knowledge := by
  obtain ⟨length, delivered, pushes, still, -, same, waiting⟩ :=
    LocalStore.pushInbox_of_faultless receiver faultless records
  rw [empty, List.append_nil] at waiting
  have room : (delivered.list receiver.config.store.inbox).length ≤ delivered.room := by
    rw [waiting, List.length_reverse, same]
    exact bounded
  obtain ⟨popped, pops, -⟩ := LocalStore.popInbox_of_faultless still room
  rw [waiting, List.reverse_reverse] at pops
  have beside : receiver.pushInbox records ⟨store, host⟩ =
      (.ok length, (⟨delivered, host⟩ : World LocalStore Solver)) := by
    rw [World.pushInbox_onStore, World.onStore, pushes]
  have undecided : (⟨delivered, host⟩ : World LocalStore Solver).host.assignment.level = 0 := level
  obtain ⟨outcome, report, tally, last, imported, -, intake⟩ :=
    importInbox_of_popInbox undecided pops
  exact ⟨length, delivered, outcome, report, tally, last, beside, imported, intake⟩

theorem length_of_mem_sharedClauses {source : LearntKey → Option Clause}
    (shareable : ∀ key ∈ sender.outbox.clauses, Publish.Shareable source key) {clause : Clause}
    (inside : clause ∈ sender.sharedClauses source) : 2 ≤ clause.length := by
  obtain ⟨key, queued, found⟩ := List.mem_filterMap.mp (List.mem_filter.mp inside).1
  obtain ⟨other, same, plural⟩ := shareable key queued
  rw [found] at same
  rw [Option.some.inj same]
  exact plural

/-- **Delivery is exact.** A publication in a faultless store that holds nothing under the sender's
stem and has room for what is published, passed on by rising identifiers to the empty inbox of a
receiver at decision level zero, is imported without a fault. If the receiver's values and the units
agree, the receiver stores the clauses that are not too long, in order, and its trail grows by the
units that are new to it, in order of first occurrence. Otherwise its trail grows by those before
the first unit that is opposed, it is marked, and it stores nothing. -/
theorem delivery_exact (receiver : Peer LearntKey) {source : Solver} (host : Solver)
    (faultless : store.Faultless)
    (fresh : publishedUnder sender.config.store.stem store = [])
    (empty : store.list receiver.config.store.inbox = [])
    (level : host.assignment.level = 0) (positive : 0 < sender.config.batchWidth)
    (shareable : ∀ key ∈ sender.outbox.clauses, Publish.Shareable source.literals? key)
    (room : sender.outbox.units.length + (sender.sharedClauses source.literals?).length ≤
      sender.counter.remaining)
    (fits : sender.outbox.units.length +
      (sender.sharedClauses source.literals?).length ≤ store.room) :
    ∃ sent sender' stored length delivered received receiver' last,
      sender.publish source.literals? ⟨store, source⟩ =
        (.ok sent, sender', (⟨stored, source⟩ : World LocalStore Solver)) ∧
      receiver.pushInbox (publishedUnder sender.config.store.stem stored) ⟨stored, host⟩ =
        (.ok length, (⟨delivered, host⟩ : World LocalStore Solver)) ∧
      receiver.importInbox (⟨delivered, host⟩ : World LocalStore Solver) =
        (.ok received, receiver', last) ∧
      (host.assignment.Accepts sender.outbox.units →
        received.contradiction = false ∧ last.host.satisfiable = host.satisfiable ∧
        last.host.learnt.contents = host.learnt.contents ++
          (sender.sharedClauses source.literals?).map some ∧
        last.host.assignment.trail.toList = host.assignment.trail.toList ++
          host.assignment.newUnits sender.outbox.units) ∧
      (¬host.assignment.Accepts sender.outbox.units → ∃ earlier unit later,
        sender.outbox.units = earlier ++ unit :: later ∧ host.assignment.Accepts earlier ∧
        host.assignment.OpposedAfter earlier unit ∧
        received.contradiction = true ∧ last.host.satisfiable = false ∧
        last.host.learnt.contents = host.learnt.contents ∧
        last.host.assignment.trail.toList = host.assignment.trail.toList ++
          host.assignment.newUnits earlier) := by
  obtain ⟨sent, sender', stored, published, still, lists, same, texts⟩ :=
    publish_of_faultless faultless fresh positive shareable room
  have bounded : (publishedUnder sender.config.store.stem stored).length ≤ stored.room := by
    rw [texts, Peer.texts, List.length_append, List.length_map, List.length_map, same]
    exact fits
  have stillEmpty : stored.list receiver.config.store.inbox = [] := by
    rw [LocalStore.list_of_lists lists, empty]
  obtain ⟨length, delivered, outcome, report, tally, last, pushed, imported, intake⟩ :=
    importInbox_of_pushInbox still stillEmpty bounded level
  rw [texts, Peer.texts] at intake
  have plural : ∀ clause ∈ sender.sharedClauses source.literals?, 2 ≤ clause.length :=
    fun _ inside => length_of_mem_sharedClauses shareable inside
  by_cases accepts : host.assignment.Accepts sender.outbox.units
  · obtain ⟨ends, satisfiable, clauses, trail⟩ :=
      Intake.units_clauses_of_accepts accepts plural intake
    obtain ⟨rfl, contradiction⟩ := Ending.of_eq_complete.mp ends
    exact ⟨sent, sender', stored, length, delivered, report, _, last, published, pushed, imported,
      fun _ => ⟨contradiction, satisfiable, clauses, trail⟩, fun refused => absurd accepts refused⟩
  · have refused : ¬host.knowledge.assignment.Accepts sender.outbox.units := accepts
    obtain ⟨earlier, unit, later, split, before, opposed⟩ :=
      Knowledge.exists_first_opposed refused
    rw [split] at intake
    obtain ⟨ends, marked, clauses, trail⟩ := Intake.units_of_opposed before opposed intake
    obtain ⟨rfl, contradiction, -⟩ := Ending.of_eq_contradicted.mp ends
    exact ⟨sent, sender', stored, length, delivered, report, _, last, published, pushed, imported,
      fun agrees => absurd agrees accepts, fun _ => ⟨earlier, unit, later, split, before, opposed,
        contradiction, marked, clauses, trail⟩⟩

/-- A solver with one clause. -/
def lender (config : Config) : Solver :=
  (Host.allocate [⟨2, true⟩, ⟨3, false⟩] 2 (Solver.starting config)).2

/-- A peer in whose outbox a unit waits twice, and another unit and a clause wait as well. -/
def lending (config : Config) : Peer LearntKey where
  config := config
  counter := .startingAt 0
  outbox := { units := [⟨0, true⟩, ⟨0, true⟩, ⟨1, false⟩], clauses := [⟨0⟩] }

theorem delivery_exact_lending :
    ∃ delivered received receiver' last,
      ({} : Peer LearntKey).importInbox (⟨delivered, .starting {}⟩ : World LocalStore Solver) =
        (.ok received, receiver', last) ∧
      last.host.learnt.contents = [some [⟨2, true⟩, ⟨3, false⟩]] ∧
      last.host.assignment.trail.toList = [⟨0, true⟩, ⟨1, false⟩] := by
  have faultless : LocalStore.Faultless {} := ⟨rfl, rfl, rfl⟩
  have nothing : publishedUnder (lending {}).config.store.stem {} = [] := rfl
  have shareable : ∀ key ∈ (lending {}).outbox.clauses,
      Publish.Shareable (lender {}).literals? key := by
    intro key inside
    rw [List.mem_singleton.mp inside]
    exact ⟨[⟨2, true⟩, ⟨3, false⟩], rfl, by decide⟩
  have free : ∀ atom, (Solver.starting {}).assignment.value? atom = none :=
    fun _ => Std.ExtTreeMap.getElem?_empty
  have accepts : (Solver.starting {}).assignment.Accepts (lending {}).outbox.units := by
    rintro earlier unit later split (against | negated)
    · rw [free] at against
      exact nomatch against
    · have queued : unit ∈ (lending {}).outbox.units ∧ unit.negate ∈ (lending {}).outbox.units := by
        rw [split]
        exact ⟨List.mem_append_right _ (List.mem_cons_self ..), List.mem_append_left _ negated⟩
      have apart :
          ∀ unit ∈ (lending {}).outbox.units, unit.negate ∉ (lending {}).outbox.units := by decide
      exact apart unit queued.1 queued.2
  obtain ⟨_, _, _, _, delivered, received, receiver', last, -, -, imported, agreed, -⟩ :=
    delivery_exact {} (.starting {}) faultless nothing rfl rfl (by decide) shareable
      (by decide) (by decide)
  obtain ⟨-, -, contents, trail⟩ := agreed accepts
  refine ⟨delivered, received, receiver', last, imported, ?_, ?_⟩
  · rw [contents]
    rfl
  · rw [trail]
    rfl

end Peer

end ClauseSharing
