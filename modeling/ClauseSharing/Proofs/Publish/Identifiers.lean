import ClauseSharing.Proofs.Publish.Publication

/-! # Which identifiers are used

A publication uses consecutive identifiers, and all of those it takes but the ones it leaves
stranded: where a clause is not live and plural, those of the clauses in front of it that fill no
batch (`Peer.Publication.uses`). Over a run the counter moves on by the records written and by what
is stranded on the way, and without any stranded identifier the records are numbered through
(`Peer.Run.uses`, `Peer.publish_identifiers`). -/

namespace ClauseSharing

namespace Peer

variable {ω κ : Type}

/-- The use of identifiers up to a later state, where so many that were taken are not used. -/
structure Uses (peer : Peer κ) (unused : Nat) (sent : List Attempt) (after : Peer κ) : Prop where
  config : after.config = peer.config
  counter : after.counter.next = peer.counter.next + (Attempt.written sent).length + unused
  /-- The records are numbered through if every identifier is used. -/
  consecutive : unused = 0 → ∃ texts,
    Attempt.written sent = peer.config.store.numbered peer.counter.next texts
  published : after.tally.published = peer.tally.published + (Attempt.settledTexts sent).length

variable {peer middle after : Peer κ} {source : κ → Option Clause}
  {reached : Except StoreError Unit} {outcome : Except Fault PublishReport}
  {sent later : List Attempt} {unused further : Nat}

theorem Uses.refl (peer : Peer κ) : Uses peer 0 [] peer where
  config := rfl
  counter := rfl
  consecutive _ := ⟨[], rfl⟩
  published := rfl

theorem Uses.trans (first : Uses peer unused sent middle)
    (second : Uses middle further later after) :
    Uses peer (unused + further) (sent ++ later) after where
  config := second.config.trans first.config
  counter := by
    rw [second.counter, first.counter, Attempt.written_append, List.length_append]
    omega
  consecutive none := by
    obtain ⟨texts, written⟩ := first.consecutive (Nat.eq_zero_of_add_eq_zero_right none)
    obtain ⟨more, rest⟩ := second.consecutive (Nat.eq_zero_of_add_eq_zero_left none)
    refine ⟨texts ++ more, ?_⟩
    have moved : middle.counter.next = peer.counter.next + texts.length := by
      rw [first.counter, written, StoreSettings.length_numbered]
      omega
    rw [Attempt.written_append, written, rest, first.config, moved, StoreSettings.numbered_append]
  published := by
    rw [second.published, first.published, Attempt.settledTexts_append, List.length_append,
      Nat.add_assoc]

/-- Where every batch was acknowledged, what was written is what was counted as published. -/
theorem Uses.published_of_acknowledged (uses : Uses peer unused sent after)
    (acknowledged : ∀ attempt ∈ sent, attempt.Acknowledged) :
    after.tally.published = peer.tally.published + (Attempt.written sent).length := by
  rw [uses.published, Attempt.settledTexts_of_acknowledged acknowledged, List.length_map]

theorem Publication.uses (ends : Publication peer source reached outcome after sent) :
    Uses peer (peer.stranded source outcome) sent after := by
  obtain ⟨config, texts, left, stranded, course⟩ := ends.course
  have writes := course.writes
  rw [List.nil_append] at writes
  have total : texts.length = (Attempt.written sent).length + left.length := by
    rw [← List.length_append, ← writes, StoreSettings.length_numbered]
  have counter : after.counter.next = peer.counter.next + texts.length := course.next
  refine ⟨config, ?_, ?_, course.published⟩
  · rw [counter, total, stranded, Nat.add_assoc]
  · intro none
    refine ⟨texts, ?_⟩
    rw [none, List.length_eq_zero_iff] at stranded
    rw [stranded, List.append_nil] at writes
    exact writes.symm

/-- On a store that takes everything, a publication succeeds, or runs out of identifiers, or comes
to a clause that is not live and plural. -/
theorem Publication.outcome_cases (ends : Publication peer source reached outcome after sent)
    (positive : 0 < peer.config.batchWidth) (connects : reached = .ok ())
    (acknowledged : ∀ attempt ∈ sent, attempt.Acknowledged) :
    (∃ report, outcome = .ok report) ∨ outcome = .error (.publishing .identifiersExhausted) ∨
      outcome = .error (.publishing .removedClause) ∨
      outcome = .error (.publishing .shortClause) := by
  cases ends with
  | idle _ => exact .inl ⟨_, rfl⟩
  | unreached failed =>
    rw [connects] at failed
    exact nomatch failed
  | widthless none => exact absurd none (Nat.ne_of_gt positive)
  | unitsFailed _ ends =>
    cases ends with
    | exhausted _ => exact .inr (.inl rfl)
    | refused _ failed =>
      obtain ⟨attempt, inside, refused⟩ := failed
      exact absurd (acknowledged attempt inside) refused
  | clausesFailed _ _ _ ends =>
    cases ends with
    | exhausted => exact .inr (.inl rfl)
    | unshareable kind _ =>
      rcases kind with rfl | rfl
      · exact .inr (.inr (.inl rfl))
      · exact .inr (.inr (.inr rfl))
    | refused failed =>
      obtain ⟨attempt, inside, refused⟩ := failed
      exact absurd (acknowledged attempt (List.mem_append_right _ inside)) refused
  | complete _ _ _ _ => exact .inl ⟨_, rfl⟩

/-- A run uses identifiers as its publications do, one after the other. -/
theorem Run.uses {actions : List (OutboxAction κ)} {outcomes : List (Except Fault PublishReport)}
    (run : Run peer actions outcomes sent unused after) : Uses peer unused sent after := by
  induction run with
  | @done peer => exact .refl peer
  | queueUnit _ ih => exact ⟨ih.config, ih.counter, ih.consecutive, ih.published⟩
  | queueClause _ ih => exact ⟨ih.config, ih.counter, ih.consecutive, ih.published⟩
  | publish ends _ ih => exact ends.uses.trans ih

variable [Store ω]

/-- **Which identifiers are used.** Whatever the store answers and the source gives out, the counter
moves on by the records written and the identifiers stranded. If none is stranded, the records are
numbered through from the next identifier. On a store that takes everything, the records written are
those counted as published, and a publication that fails has run out of identifiers or come to a
clause that is not live and plural. -/
theorem publish_identifiers (peer : Peer κ) (world : ω) :
    (∀ source, ∃ outcome after sent next,
      peer.publish source world = (outcome, after, next) ∧
      peer.publish source ({ world } : Ledger ω) = (outcome, after, ⟨sent, next⟩) ∧
      Uses peer (peer.stranded source outcome) sent after ∧
      (0 < peer.config.batchWidth → (Store.connect world).1 = .ok () →
        (∀ attempt ∈ sent, attempt.Acknowledged) →
        after.tally.published = peer.tally.published + (Attempt.written sent).length ∧
        ((∃ report, outcome = .ok report) ∨
          outcome = .error (.publishing .identifiersExhausted) ∨
          outcome = .error (.publishing .removedClause) ∨
          outcome = .error (.publishing .shortClause)))) ∧
    ∀ actions, ∃ outcomes last sent next,
      peer.follow world actions = (outcomes, last, next) ∧
      peer.follow ({ world } : Ledger ω) actions = (outcomes, last, ⟨sent, next⟩) ∧
      Uses peer (peer.strandedIn world actions) sent last ∧
      ((∀ attempt ∈ sent, attempt.Acknowledged) →
        last.tally.published = peer.tally.published + (Attempt.written sent).length) := by
  constructor
  · intro source
    obtain ⟨outcome, after, sent, next, ends, published, accounted⟩ :=
      peer.publish_accounted source world
    refine ⟨outcome, after, sent, next, published, accounted, ends.uses, ?_⟩
    intro positive connects acknowledged
    exact ⟨ends.uses.published_of_acknowledged acknowledged,
      ends.outcome_cases positive connects acknowledged⟩
  · intro actions
    obtain ⟨outcomes, last, sent, next, run, followed, accounted⟩ :=
      peer.follow_accounted actions world
    exact ⟨outcomes, last, sent, next, followed, accounted, run.uses,
      run.uses.published_of_acknowledged⟩

/-- A peer with two clauses that wait. -/
def torn (config : Config) : Peer Nat where
  config := config
  counter := .startingAt 0
  outbox := { clauses := [3, 99] }

/-- A source from which the second of them has been removed. -/
def tornSource (key : Nat) : Option Clause :=
  if key = 3 then some [⟨4, true⟩, ⟨5, true⟩] else none

theorem publish_identifiers_torn : ∃ config : Config, 0 < config.batchWidth ∧ ∃ after next,
    (torn config).publish tornSource ({ world := {} } : Ledger LocalStore) =
      (.error (.publishing .removedClause), after, ⟨[], next⟩) ∧
    after.counter.next = (torn config).counter.next + 1 ∧
    after.tally.published = (torn config).tally.published := by
  let config : Config := {}
  have ran : ∃ after next, (torn config).publish tornSource ({ world := {} } : Ledger LocalStore) =
      (.error (.publishing .removedClause), after, ⟨[], next⟩) := by
    simp only [publish, publishQueued, publishUnits, torn, piecesOf_nil]
    exact ⟨_, _, rfl⟩
  obtain ⟨outcome, after, sent, next, -, published, uses, willing⟩ :=
    (publish_identifiers (torn config) ({} : LocalStore)).1 tornSource
  obtain ⟨_, _, ran⟩ := ran
  -- The clause in front of the removed one fills no batch, so its identifier is stranded.
  cases ran.symm.trans published
  obtain ⟨tallied, -⟩ := willing (by decide) rfl fun _ absent => absurd absent List.not_mem_nil
  exact ⟨config, by decide, after, next, published, uses.counter, tallied⟩

/-- An identifier that is taken may stay unused, even on a store that takes everything. -/
theorem not_uses_all : ¬∀ (peer : Peer Nat) (source : Nat → Option Clause) (store : LocalStore),
    0 < peer.config.batchWidth → store.Faultless →
    (peer.publish source ({ world := store } : Ledger LocalStore)).2.1.counter.next =
      peer.counter.next + (Attempt.written
        (peer.publish source ({ world := store } : Ledger LocalStore)).2.2.attempts).length := by
  intro all
  have same := all (torn {}) tornSource {} (by decide) ⟨rfl, rfl, rfl⟩
  exact absurd same (by decide +kernel)

end Peer

end ClauseSharing
