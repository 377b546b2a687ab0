import ClauseSharing.Peer.Import
import ClauseSharing.Peer.Inbox

/-! # Commands over a connection

Whatever the store is, a command that is given over a connection is either refused one, or it is run
and the connection is released (`Store.overConnection_cases`). What popping an inbox leaves is what
fetching it over a connection leaves (`Peer.popInbox_snd`), and that is what asking for a length and
popping leave (`Peer.fetchInbox_keeps`). -/

namespace ClauseSharing

namespace Store

variable {ω α : Type} [Store ω]

/-- A command is refused a connection, or it is run and the connection released. -/
theorem overConnection_cases (command : ω → Except StoreError α × ω) (world : ω) :
    (∃ reason next, connect world = (.error reason, next) ∧
      overConnection command world = (.error reason, next)) ∨
    (∃ next, connect world = (.ok (), next) ∧
      overConnection command world = ((command next).1, release (command next).2)) := by
  unfold overConnection
  cases connect world with
  | mk outcome next =>
    cases outcome with
    | error reason => exact .inl ⟨reason, next, rfl, rfl⟩
    | ok _ => exact .inr ⟨next, rfl, rfl⟩

/-- What a command over a connection comes to once the connection is open. -/
theorem overConnection_of_connect {command : ω → Except StoreError α × ω} {world next : ω}
    (connects : connect world = (.ok (), next)) :
    overConnection command world = ((command next).1, release (command next).2) := by
  rw [overConnection, connects]

end Store

namespace Peer

variable {ω α : Type}

theorem raised_snd (answer : Except StoreError α × ω) : (raised answer).2 = answer.2 := by
  obtain ⟨outcome, world⟩ := answer
  cases outcome <;> rfl

variable [Store ω]

/-- What asking for the length of an inbox and popping from it keep, fetching it keeps. -/
theorem fetchInbox_keeps {motive : ω → Prop} {inbox : String}
    (asked : ∀ world, motive world → motive (Store.listLength inbox world).2)
    (popped : ∀ count world, motive world → motive (Store.popBatch inbox count world).2)
    {world : ω} (before : motive world) : motive (fetchInbox inbox world).2 := by
  have next := asked world before
  rw [fetchInbox]
  generalize Store.listLength inbox world = answer at next ⊢
  obtain ⟨outcome, reached⟩ := answer
  cases outcome with
  | error reason => exact next
  | ok length =>
    cases length with
    | zero => exact next
    | succ fewer =>
      have last := popped (fewer + 1) reached next
      simp only
      generalize Store.popBatch inbox (fewer + 1) reached = answer at last ⊢
      obtain ⟨outcome, final⟩ := answer
      cases outcome with
      | error reason => exact last
      | ok records => exact last

/-- Where records wait, as many are asked for as were counted. -/
theorem fetchInbox_of_waiting {inbox : String} {world asked : ω} {pending : Nat}
    (waiting : pending ≠ 0) (asks : Store.listLength inbox world = (.ok pending, asked)) :
    fetchInbox inbox world =
      ((Store.popBatch inbox pending asked).1.map (pending, ·),
        (Store.popBatch inbox pending asked).2) := by
  rw [fetchInbox, asks]
  cases pending with
  | zero => exact absurd rfl waiting
  | succ fewer =>
    simp only
    generalize Store.popBatch inbox (fewer + 1) asked = answer
    obtain ⟨outcome, popped⟩ := answer
    cases outcome <;> rfl

theorem fetchInbox_of_popped {inbox : String} {world asked popped : ω} {pending : Nat}
    {records : List String} (waiting : pending ≠ 0)
    (asks : Store.listLength inbox world = (.ok pending, asked))
    (pops : Store.popBatch inbox pending asked = (.ok records, popped)) :
    fetchInbox inbox world = (.ok (pending, records), popped) := by
  rw [fetchInbox_of_waiting waiting asks, pops]
  rfl

/-- What is left does not depend on whether as many records came as were asked for. -/
theorem popInbox_snd (inbox : String) (world : ω) :
    (popInbox inbox world).2 = (Store.overConnection (fetchInbox inbox) world).2 := by
  rw [popInbox]
  generalize Store.overConnection (fetchInbox inbox) world = answer
  obtain ⟨outcome, next⟩ := answer
  cases outcome with
  | error reason => rfl
  | ok fetched =>
    dsimp only
    split <;> rfl

theorem popInbox_of_error {inbox : String} {world : ω} {reason : StoreError}
    (failed : (Store.overConnection (fetchInbox inbox) world).1 = .error reason) :
    (popInbox inbox world).1 = .error reason := by
  rw [popInbox]
  generalize Store.overConnection (fetchInbox inbox) world = answer at failed ⊢
  obtain ⟨outcome, next⟩ := answer
  cases failed
  rfl

end Peer

end ClauseSharing
