import ClauseSharing.Proofs.Import.Protocol
import ClauseSharing.Proofs.World

/-! # Imports that come to no record

Above decision level zero, an import is refused before anything is asked of the store. Otherwise the
inbox is fetched before anything else is done, and there are four ways in which that fails
(`Peer.Unfetched`). In either case the host and the peer are as they were before
(`Peer.importInbox_failsWithoutTrace`), whatever store and host there are. -/

namespace ClauseSharing

namespace Peer

variable {ω : Type} [Store ω]

/-- The ways in which fetching an inbox fails, with the error that this comes to: no connection is
opened, the length of the inbox is not told, no records are popped, or another number of them than
was told. -/
inductive Unfetched (inbox : String) (world : ω) : StoreError → Prop where
  | refused {reason : StoreError} {next : ω} :
      Store.connect world = (.error reason, next) → Unfetched inbox world reason
  | uncounted {reason : StoreError} {opened next : ω} :
      Store.connect world = (.ok (), opened) →
      Store.listLength inbox opened = (.error reason, next) → Unfetched inbox world reason
  | unpopped {reason : StoreError} {opened counted next : ω} {pending : Nat} :
      Store.connect world = (.ok (), opened) →
      Store.listLength inbox opened = (.ok pending, counted) → pending ≠ 0 →
      Store.popBatch inbox pending counted = (.error reason, next) → Unfetched inbox world reason
  | mismatched {records : List String} {opened counted next : ω} {pending : Nat} :
      Store.connect world = (.ok (), opened) →
      Store.listLength inbox opened = (.ok pending, counted) → pending ≠ 0 →
      Store.popBatch inbox pending counted = (.ok records, next) → records.length ≠ pending →
      Unfetched inbox world (.popMismatch pending records.length)

section

variable {inbox : String} {world opened : ω} {reason : StoreError}

theorem popInbox_of_opened (connects : Store.connect world = (.ok (), opened)) :
    (popInbox inbox world).1 = (fetchInbox inbox opened).1.bind fun fetched =>
      if fetched.2.length = fetched.1 then .ok fetched.2
      else .error (.popMismatch fetched.1 fetched.2.length) := by
  rw [popInbox, Store.overConnection, connects]
  dsimp only
  generalize fetchInbox inbox opened = answer
  obtain ⟨outcome, next⟩ := answer
  cases outcome with
  | error reason => rfl
  | ok fetched =>
    simp only [Except.bind]
    split <;> rfl

theorem popInbox_of_unfetched (unfetched : Unfetched inbox world reason) :
    (popInbox inbox world).1 = .error reason := by
  cases unfetched with
  | refused connects => rw [popInbox, Store.overConnection, connects]
  | uncounted connects counts =>
    rw [popInbox_of_opened connects, fetchInbox, counts]
    rfl
  | unpopped connects counts waiting pops =>
    rw [popInbox_of_opened connects, fetchInbox_of_waiting waiting counts, pops]
    rfl
  | mismatched connects counts waiting pops differs =>
    rw [popInbox_of_opened connects, fetchInbox_of_waiting waiting counts, pops]
    exact if_neg differs

/-- Popping an inbox fails in these ways and in no other. -/
theorem popInbox_error_iff :
    (popInbox inbox world).1 = .error reason ↔ Unfetched inbox world reason := by
  refine ⟨fun failed => ?_, popInbox_of_unfetched⟩
  cases connects : Store.connect world with
  | mk connected opened =>
  cases connected with
  | error why =>
    have refused : Unfetched inbox world why := .refused connects
    rw [popInbox_of_unfetched refused] at failed
    cases failed
    exact refused
  | ok _ =>
  cases counts : Store.listLength inbox opened with
  | mk told counted =>
  cases told with
  | error why =>
    have uncounted : Unfetched inbox world why := .uncounted connects counts
    rw [popInbox_of_unfetched uncounted] at failed
    cases failed
    exact uncounted
  | ok pending =>
  by_cases waiting : pending = 0
  · subst waiting
    rw [popInbox_of_opened connects, fetchInbox, counts] at failed
    cases failed
  · cases pops : Store.popBatch inbox pending counted with
    | mk popped next =>
    cases popped with
    | error why =>
      have unpopped : Unfetched inbox world why := .unpopped connects counts waiting pops
      rw [popInbox_of_unfetched unpopped] at failed
      cases failed
      exact unpopped
    | ok records =>
      by_cases differs : records.length = pending
      · rw [popInbox_of_opened connects, fetchInbox_of_waiting waiting counts, pops] at failed
        have whole := (if_pos differs).symm.trans failed
        cases whole
      · have mismatched := Unfetched.mismatched connects counts waiting pops differs
        rw [popInbox_of_unfetched mismatched] at failed
        cases failed
        exact mismatched

end

/-- What ends an import that takes in records is a record that cannot be read or that holds the
empty clause. -/
theorem integrateAll_error {χ κ : Type} [Host χ κ] {peer : Peer κ}
    {records : List String} {world : χ} {fault : Fault}
    (failed : (peer.integrateAll records world).1 = .error fault) :
    (∃ record ∈ records, ∃ reason, Record.decode record = .error reason ∧ fault = .record reason) ∨
      fault = .importing .emptyRecord := by
  obtain ⟨earlier, clauses, later, ending, last, stops⟩ :=
    ImportProgress.exists_stops peer.config.tiers records world
  rw [peer.integrateAll_of_stops stops] at failed
  cases stops.ends with
  | complete => cases failed
  | unreadable refused =>
    cases failed
    have inside : _ ∈ records := stops.split ▸ List.mem_append_right earlier List.mem_cons_self
    exact .inl ⟨_, inside, _, refused, rfl⟩
  | empty _ =>
    cases failed
    exact .inr rfl
  | opposed _ _ => cases failed

variable {σ η κ : Type} [Store σ] [Host η κ]

/-- What an import comes to that takes in no records, given what it returns, the peer and the world
that it leaves, and the calls that it makes. -/
structure FailsWithoutTrace (peer : Peer κ) (before : World σ η)
    (outcome : Except Fault ImportReport) (after : Peer κ) (last : World σ η)
    (calls : List (Call κ)) : Prop where
  /-- An import is refused for the decisions that stand, whatever the store is. -/
  refused : ∀ level, outcome = .error (.importing (.decisionLevel level)) ↔
    level ≠ 0 ∧ Host.decisionLevel before.host = level
  /-- Where it is refused, nothing at all has been done. -/
  untouched : ∀ level, outcome = .error (.importing (.decisionLevel level)) →
    calls = [] ∧ after = peer ∧ last = before
  /-- An import fails because of the store just at decision level zero where the inbox is not
  fetched. -/
  unfetched : ∀ reason, outcome = .error (.store reason) ↔
    Host.decisionLevel before.host = 0 ∧ Unfetched peer.config.store.inbox before.store reason
  /-- Where it fails because of the store, all that has been done was asked of the store. -/
  unchanged : ∀ reason, outcome = .error (.store reason) →
    (∀ call ∈ calls, call.OnStore) ∧ after = peer ∧ last.host = before.host

namespace FailsWithoutTrace

variable {peer after : Peer κ} {before last : World σ η} {calls : List (Call κ)}

theorem of_decided (decided : Host.decisionLevel before.host ≠ 0) :
    FailsWithoutTrace peer before
      (.error (.importing (.decisionLevel (Host.decisionLevel before.host)))) peer before [] where
  refused level := by
    constructor
    · intro same
      cases same
      exact ⟨decided, rfl⟩
    · intro standing
      rw [standing.2]
  untouched _ _ := ⟨rfl, rfl, rfl⟩
  unfetched reason := by
    constructor
    · intro same
      cases same
    · intro free
      exact absurd free.1 decided
  unchanged reason same := by cases same

theorem of_unfetched {reason : StoreError} (free : Host.decisionLevel before.host = 0)
    (unfetched : Unfetched peer.config.store.inbox before.store reason)
    (host : last.host = before.host) (onStore : ∀ call ∈ calls, call.OnStore) :
    FailsWithoutTrace peer before (.error (.store reason)) peer last calls where
  refused level := by
    constructor
    · intro same
      cases same
    · intro standing
      exact absurd (standing.2.symm.trans free) standing.1
  untouched level same := by cases same
  unfetched other := by
    constructor
    · intro same
      cases same
      exact ⟨free, unfetched⟩
    · intro also
      have one := popInbox_of_unfetched unfetched
      have two := popInbox_of_unfetched also.2
      cases one.symm.trans two
      rfl
  unchanged _ _ := ⟨onStore, rfl, host⟩

theorem of_fetched {outcome : Except Fault ImportReport} (free : Host.decisionLevel before.host = 0)
    (fetched : ∀ reason, ¬Unfetched peer.config.store.inbox before.store reason)
    (taken : ∀ fault, outcome = .error fault →
      (∃ reason, fault = .record reason) ∨ fault = .importing .emptyRecord) :
    FailsWithoutTrace peer before outcome after last calls := by
  have ends {fault : Fault} (failed : outcome = .error fault)
      (unread : ∀ reason, fault ≠ .record reason) : fault = .importing .emptyRecord :=
    (taken fault failed).resolve_left fun ⟨reason, same⟩ => unread reason same
  have undecided (level : Nat) : outcome ≠ .error (.importing (.decisionLevel level)) := by
    intro failed
    cases ends failed nofun
  have stored (reason : StoreError) : outcome ≠ .error (.store reason) := by
    intro failed
    cases ends failed nofun
  refine ⟨fun level => ?_, fun level failed => absurd failed (undecided level), fun reason => ?_,
    fun reason failed => absurd failed (stored reason)⟩
  · apply iff_of_false (undecided level)
    intro standing
    exact standing.1 (standing.2.symm.trans free)
  · apply iff_of_false (stored reason)
    intro unfetched
    exact fetched reason unfetched.2

end FailsWithoutTrace

/-- **An import that comes to no record leaves no trace.** Listing the calls of an import changes
nothing about it. Above decision level zero it is refused with the level before a single call is
made. Otherwise it fails because of the store in the four ways in which fetching an inbox fails, and
in no other, and then the peer is as it was and so is the host, of which nothing has been asked. -/
theorem importInbox_failsWithoutTrace (peer : Peer κ) (before : World σ η) :
    ∃ (outcome : Except Fault ImportReport) (after : Peer κ) (last : World σ η)
      (calls : List (Call κ)), peer.importInbox before = (outcome, after, last) ∧
      peer.importInbox ({ world := before } : Logged κ (World σ η)) =
        (outcome, after, ⟨calls.toArray, last⟩) ∧
      FailsWithoutTrace peer before outcome after last calls := by
  let start : Logged κ (World σ η) := { world := before }
  have unlogged := peer.importInbox_view (Logged.respects_store.at _) Logged.respects_host start
  by_cases free : Host.decisionLevel before.host = 0
  · -- The inbox is popped in the log, in the world and in the store alike.
    have visits := Logged.visits_popInbox peer.config.store.inbox start
    have viewed := popInbox_view (Logged.respects_store.at peer.config.store.inbox) start
    have stored := World.popInbox_onStore peer.config.store.inbox before
    have host := World.host_popInbox peer.config.store.inbox before
    cases popping : popInbox peer.config.store.inbox start with
    | mk popped next =>
    rw [popping] at visits viewed
    rw [viewed] at stored host
    have answer : (popInbox peer.config.store.inbox before.store).1 = popped :=
      (congrArg Prod.fst stored).symm
    cases popped with
    | error reason =>
      have failed : peer.importInbox start = (.error (.store reason), peer, next) :=
        peer.importInbox_of_unpopped free popping
      rw [failed] at unlogged
      obtain ⟨asked, listed, onStore⟩ := visits
      have only : next = ⟨asked.toArray, next.world⟩ :=
        Logged.ext (listed.trans Array.empty_append) rfl
      refine ⟨_, peer, next.world, asked, unlogged, ?_, ?_⟩
      · rw [← only]
        exact failed
      · exact .of_unfetched free (popInbox_error_iff.mp answer) host onStore
    | ok records =>
      have taken : peer.importInbox start = peer.integrateAll records next :=
        peer.importInbox_of_popped free popping
      rw [taken] at unlogged
      refine ⟨_, _, _, (peer.integrateAll records next).2.2.calls.toList, unlogged, taken, ?_⟩
      apply FailsWithoutTrace.of_fetched free
      · intro reason unfetched
        cases (popInbox_of_unfetched unfetched).symm.trans answer
      · intro fault failed
        rcases integrateAll_error failed with ⟨_, -, reason, -, same⟩ | none
        · exact .inl ⟨reason, same⟩
        · exact .inr none
  · have refused : peer.importInbox start = _ := peer.importInbox_of_decided free
    rw [refused] at unlogged
    exact ⟨_, peer, before, [], unlogged, refused, .of_decided free⟩

end Peer

end ClauseSharing
