import ClauseSharing.Proofs.View

/-! # Accounts of what was written

A ledger lists every batch that a store was given, in order, with what the store answered to it. The
store under a ledger does what it would do without, and so does a publication
(`Peer.publish_forget`). -/

namespace ClauseSharing

/-- A batch that a store was given, and the answer. -/
structure Attempt where
  writes : List Write
  outcome : Except StoreError Unit

namespace Attempt

/-- Whether the store acknowledged the batch. -/
def Acknowledged (attempt : Attempt) : Prop := attempt.outcome = .ok ()

/-- The writes of a batch that was acknowledged. -/
def settled (attempt : Attempt) : List Write :=
  match attempt.outcome with
  | .ok () => attempt.writes
  | .error _ => []

/-- All that was written. -/
def written (attempts : List Attempt) : List Write := attempts.flatMap writes

/-- All texts written in batches that were acknowledged. -/
def settledTexts (attempts : List Attempt) : List String :=
  (attempts.flatMap settled).map Prod.snd

variable {writes : List Write}

@[simp] theorem settled_ok : settled ⟨writes, .ok ()⟩ = writes := rfl

@[simp] theorem written_nil : written [] = [] := rfl

@[simp] theorem written_cons (attempt : Attempt) (attempts : List Attempt) :
    written (attempt :: attempts) = attempt.writes ++ written attempts := List.flatMap_cons

@[simp] theorem written_append (front rest : List Attempt) :
    written (front ++ rest) = written front ++ written rest := List.flatMap_append

@[simp] theorem settledTexts_nil : settledTexts [] = [] := rfl

@[simp] theorem settledTexts_cons (attempt : Attempt) (attempts : List Attempt) :
    settledTexts (attempt :: attempts) = attempt.settled.map Prod.snd ++ settledTexts attempts := by
  simp only [settledTexts, List.flatMap_cons, List.map_append]

@[simp] theorem settledTexts_append (front rest : List Attempt) :
    settledTexts (front ++ rest) = settledTexts front ++ settledTexts rest := by
  simp only [settledTexts, List.flatMap_append, List.map_append]

theorem not_acknowledged_error {reason : StoreError} : ¬Acknowledged ⟨writes, .error reason⟩ := by
  intro acknowledged
  cases acknowledged

theorem settled_of_acknowledged {attempt : Attempt} (acknowledged : attempt.Acknowledged) :
    attempt.settled = attempt.writes := by
  rw [settled, acknowledged]

/-- If every batch was acknowledged, all that was written is settled. -/
theorem settledTexts_of_acknowledged {attempts : List Attempt}
    (acknowledged : ∀ attempt ∈ attempts, attempt.Acknowledged) :
    settledTexts attempts = (written attempts).map Prod.snd := by
  induction attempts with
  | nil => rfl
  | cons attempt attempts ih =>
    obtain ⟨first, others⟩ := List.forall_mem_cons.mp acknowledged
    rw [settledTexts_cons, written_cons, List.map_append, settled_of_acknowledged first, ih others]

theorem length_settledTexts_le (attempts : List Attempt) :
    (settledTexts attempts).length ≤ (written attempts).length := by
  induction attempts with
  | nil => exact Nat.le_refl 0
  | cons attempt attempts ih =>
    have one : attempt.settled.length ≤ attempt.writes.length := by
      unfold settled
      split
      · exact Nat.le_refl _
      · exact Nat.zero_le _
    simp only [settledTexts_cons, written_cons, List.length_append, List.length_map]
    omega

end Attempt

/-- A world with an account of the batches that were written in it. -/
structure Ledger (ω : Type) where
  attempts : List Attempt := []
  world : ω

namespace Ledger

variable {ω α : Type}

/-- Gives a command of which no account is kept. -/
def beneath (command : ω → α × ω) (ledger : Ledger ω) : α × Ledger ω :=
  let (answer, world) := command ledger.world
  (answer, { ledger with world })

/-- The account with one more batch, given to the store. -/
def enter (command : ω → Except StoreError Unit × ω) (writes : List Write) (ledger : Ledger ω) :
    Except StoreError Unit × Ledger ω :=
  let (outcome, world) := command ledger.world
  (outcome, { attempts := ledger.attempts ++ [⟨writes, outcome⟩], world })

instance [Store ω] : Store (Ledger ω) where
  connect := beneath Store.connect
  release ledger := { ledger with world := Store.release ledger.world }
  writeBatch writes := enter (Store.writeBatch writes) writes
  listLength name := beneath (Store.listLength name)
  popBatch name count := beneath (Store.popBatch name count)
  push name records := beneath (Store.push name records)
  flush := beneath Store.flush

/-- Takes the account away from what a command returned. -/
def forget {β : Type} (answer : α × β × Ledger ω) : α × β × ω :=
  (answer.1, answer.2.1, answer.2.2.world)

theorem writeBatch_eq [Store ω] (writes : List Write) (ledger : Ledger ω) :
    Store.writeBatch writes ledger = ((Store.writeBatch writes ledger.world).1,
      { attempts := ledger.attempts ++ [⟨writes, (Store.writeBatch writes ledger.world).1⟩]
        world := (Store.writeBatch writes ledger.world).2 }) := rfl

/-- The account is beside the store. -/
theorem respects [Store ω] : Store.Respects (world : Ledger ω → ω) :=
  ⟨fun _ => rfl, fun _ => rfl, fun _ _ => rfl, fun _ _ => rfl, fun _ _ _ => rfl, fun _ _ _ => rfl,
    fun _ => rfl⟩

end Ledger

/-- **Keeping an account changes nothing** about what a publication does. -/
theorem Peer.publish_forget {ω κ : Type} [Store ω] (peer : Peer κ) (source : κ → Option Clause)
    (ledger : Ledger ω) :
    Ledger.forget (peer.publish source ledger) = peer.publish source ledger.world :=
  (peer.publish_view (Ledger.respects.at peer.config.store.inbox) source ledger).symm

end ClauseSharing
