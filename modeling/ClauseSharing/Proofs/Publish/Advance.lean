import ClauseSharing.Portfolio
import ClauseSharing.Proofs.Import.Frame
import ClauseSharing.Proofs.Publish.Publication

/-! # Peers never go back

Whatever a peer is asked and whatever comes of it, the identifiers under which it writes rise and
are spent for good (`Peer.Advances`, `PeerAction.advances`). An import counts nothing as published
(`ImportProgress.published_integrateRecords`). -/

namespace ClauseSharing

namespace ImportProgress

variable {ω κ : Type} [Host ω κ]

theorem published_integrateUnit (progress : ImportProgress ω) (literal : Literal) :
    (progress.integrateUnit literal).tally.published = progress.tally.published := by
  rw [integrateUnit]
  split
  · rfl
  · split
    · rfl
    · rfl

theorem published_countTier (progress : ImportProgress ω) (tier : Tier) :
    (progress.countTier tier).tally.published = progress.tally.published := by
  cases tier <;> rfl

theorem published_integrateClause (settings : TierSettings) (progress : ImportProgress ω)
    (clause : Clause) :
    (progress.integrateClause settings clause).tally.published = progress.tally.published := by
  rw [integrateClause]
  dsimp only
  refine (published_countTier _ _).trans ?_
  split
  · rfl
  · rfl

theorem published_integrate (settings : TierSettings) (progress : ImportProgress ω)
    (clause : Clause) :
    (progress.integrate settings clause).2.tally.published = progress.tally.published := by
  match clause with
  | [] => rfl
  | [literal] => exact published_integrateUnit ..
  | _ :: _ :: _ => exact published_integrateClause ..

theorem published_integrateRecords (settings : TierSettings) (records : List String)
    (progress : ImportProgress ω) :
    (progress.integrateRecords settings records).2.tally.published = progress.tally.published :=
  integrateRecords_induction
    (motive := fun reached => reached.tally.published = progress.tally.published)
    (fun reached clause same => (published_integrate settings reached clause).trans same)
    (fun _ _ same => same) records rfl

end ImportProgress

namespace Peer

variable {κ : Type}

/-- A later state of a peer that has published in between: it is configured as before, the
identifiers under which it wrote rise and are spent, and no more is counted as published than was
written. -/
structure Advances (peer : Peer κ) (writes : List Write) (after : Peer κ) : Prop where
  config : after.config = peer.config
  rising : ∃ identifiers : List Nat,
    writes.map Prod.fst = identifiers.map peer.config.store.recordKey ∧
    identifiers.Pairwise (· < ·) ∧
    ∀ identifier ∈ identifiers, peer.counter.next ≤ identifier ∧
      identifier < after.counter.next ∧ identifier < IdCounter.limit
  spent : peer.counter.next + writes.length ≤ after.counter.next
  counted : after.tally.published ≤ peer.tally.published + writes.length

variable {peer middle after : Peer κ} {writes more : List Write}

theorem Advances.refl (config : after.config = peer.config) (counter : after.counter = peer.counter)
    (published : after.tally.published = peer.tally.published) : peer.Advances [] after where
  config := config
  rising := ⟨[], rfl, .nil, fun _ none => absurd none List.not_mem_nil⟩
  spent := Nat.le_of_eq (congrArg IdCounter.next counter.symm)
  counted := Nat.le_of_eq published

theorem Advances.trans (first : peer.Advances writes middle) (second : middle.Advances more after) :
    peer.Advances (writes ++ more) after where
  config := second.config.trans first.config
  rising := by
    obtain ⟨front, keys, rising, bounds⟩ := first.rising
    obtain ⟨rest, moreKeys, further, moreBounds⟩ := second.rising
    have spentFirst := first.spent
    have spentSecond := second.spent
    -- What comes later begins where the first identifiers have been spent.
    refine ⟨front ++ rest, ?_, ?_, ?_⟩
    · rw [List.map_append, keys, moreKeys, first.config, List.map_append]
    · refine List.pairwise_append.mpr ⟨rising, further, ?_⟩
      intro earlier before later behind
      exact Nat.lt_of_lt_of_le (bounds earlier before).2.1 (moreBounds later behind).1
    · intro identifier inside
      rcases List.mem_append.mp inside with before | behind
      · obtain ⟨least, below, limited⟩ := bounds identifier before
        exact ⟨least, by omega, limited⟩
      · obtain ⟨least, below, limited⟩ := moreBounds identifier behind
        exact ⟨by omega, below, limited⟩
  spent := by
    have spentFirst := first.spent
    have spentSecond := second.spent
    rw [List.length_append]
    omega
  counted := by
    have countedFirst := first.counted
    have countedSecond := second.counted
    rw [List.length_append]
    omega

/-- No key is used twice on the way. -/
theorem Advances.keys_nodup (advances : peer.Advances writes after) :
    (writes.map Prod.fst).Nodup := by
  obtain ⟨identifiers, keys, rising, -⟩ := advances.rising
  rw [keys, List.Nodup, List.pairwise_map]
  apply rising.imp
  intro earlier later below same
  exact Nat.ne_of_lt below (StoreSettings.recordKey_injective same).2

theorem Publication.advances {source : κ → Option Clause} {reached : Except StoreError Unit}
    {outcome : Except Fault PublishReport} {sent : List Attempt}
    (ends : Publication peer source reached outcome after sent) :
    peer.Advances (Attempt.written sent) after := by
  obtain ⟨config, texts, left, -, course⟩ := ends.course
  obtain ⟨front, isPrefix, written⟩ := course.written_eq
  have fewer : front.length ≤ texts.length := isPrefix.length_le
  have count : (Attempt.written sent).length = front.length := by
    rw [written, StoreSettings.length_numbered]
  have next : after.counter.next = peer.counter.next + texts.length := course.next
  have limited : after.counter.next ≤ IdCounter.limit := after.counter.next_le
  have published : after.tally.published =
      peer.tally.published + (Attempt.settledTexts sent).length := course.published
  -- Identifiers that were taken and not written lie between those written and the counter.
  have settled := Attempt.length_settledTexts_le sent
  refine ⟨config, ⟨List.range' peer.counter.next front.length, ?_, List.pairwise_lt_range', ?_⟩,
    by omega, by omega⟩
  · rw [written]
    exact StoreSettings.map_fst_numbered ..
  · intro identifier inside
    obtain ⟨least, below⟩ := List.mem_range'_1.mp inside
    exact ⟨least, by omega, by omega⟩

theorem importInbox_advances {ω : Type} [Store ω] [Host ω κ] (peer : Peer κ) (world : ω) :
    peer.Advances [] (peer.importInbox world).2.1 := by
  rw [importInbox]
  split
  · exact .refl rfl rfl rfl
  · split
    · exact .refl rfl rfl rfl
    · exact .refl rfl rfl (ImportProgress.published_integrateRecords ..)

end Peer

namespace PeerAction

/-- What is written if a peer is asked for something: all that a publication gives to the store. -/
def written (peer : Peer LearntKey) (world : World LocalStore Solver) : PeerAction → List Write
  | publish => Attempt.written
      (peer.publish world.host.literals?
        ({ world } : Ledger (World LocalStore Solver))).2.2.attempts
  | _ => []

/-- **A peer never goes back**, whatever it is asked and whatever comes of it. -/
theorem advances (action : PeerAction) (peer : Peer LearntKey) (world : World LocalStore Solver) :
    peer.Advances (action.written peer world) (action.perform peer world).2.1 := by
  cases action with
  | publish =>
    obtain ⟨outcome, after, sent, next, ends, published, accounted⟩ :=
      peer.publish_accounted world.host.literals? world
    rw [written, perform, published, accounted]
    exact ends.advances
  | importInbox => exact peer.importInbox_advances world
  | queueUnit _ | queueClause _ | inboxLength | pushInbox _ | flushStore | route _ =>
    exact .refl rfl rfl rfl

end PeerAction

end ClauseSharing
