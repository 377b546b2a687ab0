import ClauseSharing.Observation.Logged
import ClauseSharing.Portfolio
import ClauseSharing.Proofs.View

/-! # Transcripts

A transcript lists every call on a store and every change to a host, in order, with what was
answered. The world under a transcript does what it would do without, and so does whatever a peer is
asked to do (`Request.perform_forget`). -/

namespace ClauseSharing

/-- A call and what was answered to it. -/
structure Line (κ : Type) where
  call : Call κ
  answer : Answer := .done

namespace Line

variable {κ : Type}

/-- Whether the call failed. -/
def Failed (line : Line κ) : Prop := ∃ fault, line.answer = .failed fault

/-- Whether the call changes the host. -/
def ChangesHost (line : Line κ) : Prop :=
  match line.call with
  | .connect | .release | .writeBatch _ | .listLength _ | .popBatch _ _ | .push _ _ | .flush =>
    False
  | _ => True

end Line

/-- A world and the calls made on it. -/
structure Transcript (κ ω : Type) where
  lines : List (Line κ) := []
  world : ω

namespace Transcript

variable {κ ω α : Type}

/-- Makes a call and lists it with the answer. -/
def ask (call : Call κ) (tell : α → Answer) (command : ω → α × ω) (transcript : Transcript κ ω) :
    α × Transcript κ ω :=
  let (answer, world) := command transcript.world
  (answer, { lines := transcript.lines ++ [⟨call, tell answer⟩], world })

/-- Makes a call that answers nothing and lists it. -/
def act (call : Call κ) (change : ω → ω) (transcript : Transcript κ ω) : Transcript κ ω :=
  { lines := transcript.lines ++ [⟨call, .done⟩], world := change transcript.world }

/-- The answer to a command that tells only whether it failed. -/
def settled : Except StoreError Unit → Answer := .ofExcept .store fun _ => .done

instance [Store ω] : Store (Transcript κ ω) where
  connect := ask .connect settled Store.connect
  release := act .release Store.release
  writeBatch writes := ask (.writeBatch writes) settled (Store.writeBatch writes)
  listLength name := ask (.listLength name) (.ofExcept .store .number) (Store.listLength name)
  popBatch name count :=
    ask (.popBatch name count) (.ofExcept .store .records) (Store.popBatch name count)
  push name records :=
    ask (.push name records) (.ofExcept .store .number) (Store.push name records)
  flush := ask .flush settled Store.flush

instance [Host ω κ] : Host (Transcript κ ω) κ where
  decisionLevel transcript := Host.decisionLevel transcript.world
  value? atom transcript := Host.value? atom transcript.world
  assign literal := act (.assign literal) (Host.assign literal)
  setUnsatisfiable := act .setUnsatisfiable Host.setUnsatisfiable
  allocate literals distance :=
    ask (.allocate literals distance) (fun _ => .done) (Host.allocate literals distance)
  markTier key tier := act (.markTier key tier) (Host.markTier key tier)
  setTouched key conflicts := act (.setTouched key conflicts) (Host.setTouched key conflicts)
  bumpClause key := act (.bumpClause key) (Host.bumpClause key)
  attach key := act (.attach key) (Host.attach key)
  decayClauses := act .decayClauses Host.decayClauses
  noteCopy key := ask (.noteCopy key) .number (Host.noteCopy key)
  isAdaptive transcript := Host.isAdaptive transcript.world
  recordDistance distance := act (.recordDistance distance) (Host.recordDistance distance)
  decayAtoms := act .decayAtoms Host.decayAtoms
  conflicts transcript := Host.conflicts transcript.world

/-- The transcript is beside the store. -/
theorem respects_store [Store ω] : Store.Respects (world : Transcript κ ω → ω) :=
  ⟨fun _ => rfl, fun _ => rfl, fun _ _ => rfl, fun _ _ => rfl, fun _ _ _ => rfl, fun _ _ _ => rfl,
    fun _ => rfl⟩

/-- The transcript is beside the host. -/
theorem respects_host [Host ω κ] : Host.Respects (world : Transcript κ ω → ω) :=
  ⟨fun _ => rfl, fun _ _ => rfl, fun _ _ => rfl, fun _ => rfl, fun _ _ _ => rfl, fun _ _ _ => rfl,
    fun _ _ _ => rfl, fun _ _ => rfl, fun _ _ => rfl, fun _ => rfl, fun _ _ => rfl, fun _ => rfl,
    fun _ _ => rfl, fun _ => rfl, fun _ => rfl⟩

end Transcript

/-- What a peer can be asked to do with its store. -/
inductive Request (κ : Type) where
  /-- Publishes what waits, with clauses read from a source. -/
  | publish (source : κ → Option Clause)
  | importInbox
  | inboxLength
  | pushInbox (records : List String)
  | flushStore

namespace Request

variable {κ ω : Type} [Store ω] [Host ω κ]

/-- Does what a peer is asked to do. -/
def perform (peer : Peer κ) (world : ω) : Request κ → Answer × Peer κ × ω
  | publish source =>
    let (outcome, peer, world) := peer.publish source world
    (.ofExcept id .published outcome, peer, world)
  | importInbox =>
    let (outcome, peer, world) := peer.importInbox world
    (.ofExcept id .imported outcome, peer, world)
  | inboxLength =>
    let (outcome, world) := peer.inboxLength world
    (.ofExcept id .number outcome, peer, world)
  | pushInbox records =>
    let (outcome, world) := peer.pushInbox records world
    (.ofExcept id .number outcome, peer, world)
  | flushStore =>
    let (outcome, world) := peer.flushStore world
    (.ofExcept id (fun _ => .done) outcome, peer, world)

/-- **Listing the calls changes nothing** about what a peer does. -/
theorem perform_forget (request : Request κ) (peer : Peer κ) (transcript : Transcript κ ω) :
    request.perform peer transcript.world =
      (request.perform peer transcript).map id (Prod.map id Transcript.world) := by
  have store : Store.Respects (Transcript.world : Transcript κ ω → ω) := Transcript.respects_store
  cases request with
  | publish source =>
    rw [perform, perform, peer.publish_view (store.at peer.config.store.inbox) source]
    rfl
  | importInbox =>
    rw [perform, perform, peer.importInbox_view (store.at _) Transcript.respects_host]
    rfl
  | inboxLength =>
    rw [perform, perform, peer.inboxLength_view (store.at _)]
    rfl
  | pushInbox records =>
    rw [perform, perform, peer.pushInbox_view (store.at _)]
    rfl
  | flushStore =>
    rw [perform, perform, peer.flushStore_view store]
    rfl

end Request

end ClauseSharing
