import ClauseSharing.Proofs.Import.Order
import ClauseSharing.Proofs.Store.Connection

/-! # What an import asks of any host

Whatever a host answers, the calls that an import makes on it keep to one protocol. Beside what
stands before and behind each of them, each clause is stored once, each key that is given out is
marked and attached once, each copy is noted once and each distance told once, all in order
(`ImportProgress.protocol_course`). An inbox is popped without the host, and then the protocol is
kept to (`Peer.importInbox_protocol`). -/

namespace ClauseSharing

namespace Call

variable {ω κ : Type}

/-- What a call stores. -/
def stored? : Call κ → Option (Clause × Nat)
  | allocate clause distance => some (clause, distance)
  | _ => none

/-- The key of the clause that a call puts in a tier. -/
def marked? : Call κ → Option κ
  | markTier key _ => some key
  | _ => none

/-- The key of the clause that a call attaches. -/
def attached? : Call κ → Option κ
  | attach key => some key
  | _ => none

/-- The clause of which a call notes a copy. -/
def noted? : Call κ → Option LiteralSet
  | noteCopy set => some set
  | _ => none

/-- The distance that a call tells. -/
def told? : Call κ → Option Nat
  | recordDistance distance => some distance
  | _ => none

/-- Whether a call is made on a store. -/
def OnStore : Call κ → Prop
  | connect | release | writeBatch _ | listLength _ | popBatch _ _ | push _ _ | flush => True
  | _ => False

variable [Host ω κ]

/-- The key under which a call stores a clause, if it does. -/
def newKey? (world : ω) : Call κ → Option κ
  | allocate clause distance => some (Host.allocate clause distance world).1
  | _ => none

/-- The keys under which calls store clauses, as the host gives them out. -/
def keys : List (Call κ) → ω → List κ
  | [], _ => []
  | call :: calls, world => (call.newKey? world).toList ++ keys calls (call.change world)

theorem keys_append (front rest : List (Call κ)) (world : ω) :
    keys (front ++ rest) world = keys front world ++ keys rest (after front world) := by
  induction front generalizing world with
  | nil => rfl
  | cons call front ih =>
    rw [List.cons_append, keys, keys, ih, List.append_assoc]
    rfl

/-- Keys are given out for clauses that are stored, and for nothing else. -/
theorem keys_eq_nil {calls : List (Call κ)}
    (none : ∀ call ∈ calls, call.stored? = .none) (world : ω) :
    keys calls world = [] := by
  induction calls generalizing world with
  | nil => rfl
  | cons call calls ih =>
    obtain ⟨first, others⟩ := List.forall_mem_cons.mp none
    have new : call.newKey? world = .none := by
      cases call with
      | allocate clause distance => cases first
      | _ => rfl
    rw [keys, new, ih others]
    rfl

end Call

/-- The distances that are told at the end of an import. -/
def Ending.distances : Ending → List Nat
  | .stopped (.importing .emptyRecord) => [0]
  | .complete | .stopped _ => []
  | .contradicted _ => [1]

namespace ImportProgress

variable {ω κ : Type} [Host ω κ] {settings : TierSettings}

section

variable {clause : Clause} {clauses : List Clause} {ending : Ending} {key : κ}
  {world : ω} {α : Type} {select : Call κ → Option α}

omit [Host ω κ] in
theorem filterMap_guarded {only : Call κ} {condition : Prop} [Decidable condition]
    (none : select only = .none) : (if condition then [only] else []).filterMap select = [] :=
  List.filterMap_eq_nil_iff.mpr fun _ inside => eq_of_mem_guarded inside ▸ none

omit [Host ω κ] in
theorem filterMap_singleton (call : Call κ) : [call].filterMap select = (select call).toList := by
  cases chosen : select call with
  | none => exact List.filterMap_cons_none chosen
  | some value => exact List.filterMap_cons_some chosen

/-- Whether all that is selected of calls belongs to clauses that are stored, to their copies, to
their tiers or to their attachment. -/
structure Selective (select : Call κ → Option α) : Prop where
  told : ∀ distance, select (.recordDistance distance) = none
  assigned : ∀ literal, select (.assign literal) = none
  refuted : select .setUnsatisfiable = none
  touched : ∀ key conflicts, select (.setTouched key conflicts) = none
  bumped : ∀ key, select (.bumpClause key) = none
  faded : select .decayAtoms = none
  decayed : select .decayClauses = none

namespace Selective

variable (selective : Selective select)

include selective

theorem telling (distance : Nat) (world : ω) : (telling distance world).filterMap select = [] :=
  filterMap_guarded (selective.told distance)

theorem serving (settings : TierSettings) (clause : Clause) (key : κ) (world : ω) :
    (serving settings clause key world).filterMap select =
      (noting settings clause).filterMap select ++
        (select (.markTier key (tierOf settings clause world))).toList ++
        (select (.attach key)).toList := by
  have entered (tier : Tier) (reached : ω) : (entering key tier reached).filterMap select = [] := by
    cases tier with
    | core => rfl
    | second => exact List.filterMap_cons_none (selective.touched ..)
    | active => exact List.filterMap_cons_none (selective.bumped key)
  have faded (reached : ω) : (fading reached).filterMap select = [] :=
    filterMap_guarded selective.faded
  rw [ImportProgress.serving]
  simp only [List.filterMap_append, entered, faded, filterMap_singleton, selective.decayed,
    Option.toList_none, List.append_nil]

/-- What is selected of the calls for a clause of two literals or more. -/
theorem asking_of_plural (settings : TierSettings) {clause : Clause} (plural : 2 ≤ clause.length)
    (world : ω) :
    let reached := Call.after (ImportProgress.telling clause.distance world) world
    let stored := Host.allocate clause clause.distance reached
    (asking settings clause world).filterMap select =
      (select (.allocate clause clause.distance)).toList ++
      ((noting settings clause).filterMap select ++
        (select (.markTier stored.1 (tierOf settings clause stored.2))).toList ++
        (select (.attach stored.1)).toList) := by
  intro reached stored
  have split : asking settings clause world = ImportProgress.telling clause.distance world ++
      ([.allocate clause clause.distance] ++ ImportProgress.serving settings clause
        stored.1 stored.2) :=
    ImportProgress.asking_of_plural settings plural world
  rw [split, List.filterMap_append, List.filterMap_append, selective.telling, selective.serving,
    filterMap_singleton, List.nil_append]

theorem asking_of_short (settings : TierSettings) {clause : Clause}
    (short : ¬2 ≤ clause.length) (world : ω) :
    (asking settings clause world).filterMap select = [] := by
  match clause, short with
  | [], _ => exact selective.telling 0 world
  | [literal], _ =>
    rw [asking, List.filterMap_append, selective.telling,
      filterMap_guarded (selective.assigned literal)]
    rfl
  | first :: second :: rest, short => exact absurd (Nat.le_add_left ..) short

theorem closing (ending : Ending) (world : ω) : (ending.closing world).filterMap select = [] := by
  unfold Ending.closing
  split
  · exact selective.telling 0 world
  · rfl
  · rfl
  · rw [List.filterMap_append, selective.telling, filterMap_singleton, selective.refuted]
    rfl

/-- What is selected of the calls of an import follows from what is selected of those for one
clause. -/
theorem course {pick : Clause → Option α}
    (one : ∀ clause (world : ω), (asking settings clause world).filterMap select =
      (pick clause).toList)
    (clauses : List Clause) (ending : Ending) (world : ω) :
    (course settings clauses ending world).filterMap select = clauses.filterMap pick := by
  have all (world : ω) :
      (askingAll settings clauses world).filterMap select = clauses.filterMap pick := by
    induction clauses generalizing world with
    | nil => rfl
    | cons clause clauses ih =>
      rw [askingAll, List.filterMap_append, one, ih, List.filterMap_cons]
      cases pick clause <;> rfl
  rw [ImportProgress.course, List.filterMap_append, all, selective.closing, List.append_nil]

end Selective

theorem selective_stored : Selective (Call.stored? : Call κ → _) :=
  ⟨fun _ => rfl, fun _ => rfl, rfl, fun _ _ => rfl, fun _ => rfl, rfl, rfl⟩

theorem selective_noted : Selective (Call.noted? : Call κ → _) :=
  ⟨fun _ => rfl, fun _ => rfl, rfl, fun _ _ => rfl, fun _ => rfl, rfl, rfl⟩

theorem selective_marked : Selective (Call.marked? : Call κ → _) :=
  ⟨fun _ => rfl, fun _ => rfl, rfl, fun _ _ => rfl, fun _ => rfl, rfl, rfl⟩

theorem selective_attached : Selective (Call.attached? : Call κ → _) :=
  ⟨fun _ => rfl, fun _ => rfl, rfl, fun _ _ => rfl, fun _ => rfl, rfl, rfl⟩

/-- Each clause of two literals or more is stored once, in order. -/
theorem stored_course (settings : TierSettings) (clauses : List Clause)
    (ending : Ending) (world : ω) :
    (course settings clauses ending world).filterMap Call.stored? =
      clauses.filterMap fun clause =>
        if 2 ≤ clause.length then some (clause, min clause.length 255) else none := by
  apply selective_stored.course
  intro clause world
  by_cases plural : 2 ≤ clause.length
  · have unnoted : (noting settings clause : List (Call κ)).filterMap Call.stored? = [] :=
      filterMap_guarded rfl
    rw [selective_stored.asking_of_plural settings plural, unnoted, if_pos plural]
    rfl
  · rw [selective_stored.asking_of_short settings plural, if_neg plural]
    rfl

/-- A copy is noted once of each clause of two literals or more whose copies are counted, in
order. -/
theorem noted_course (settings : TierSettings) (clauses : List Clause)
    (ending : Ending) (world : ω) :
    (course settings clauses ending world).filterMap Call.noted? =
      clauses.filterMap fun clause =>
        if 2 ≤ clause.length ∧ Counts settings clause then some (.ofClause clause) else none := by
  apply selective_noted.course
  intro clause world
  by_cases plural : 2 ≤ clause.length
  · have noted : (noting settings clause : List (Call κ)).filterMap Call.noted? =
        (if Counts settings clause then some (LiteralSet.ofClause clause) else none).toList := by
      rw [noting]
      split <;> rfl
    rw [selective_noted.asking_of_plural settings plural, noted]
    simp only [and_iff_right plural]
    exact (List.append_nil _).trans (List.append_nil _)
  · rw [selective_noted.asking_of_short settings plural, if_neg fun both => plural both.1]
    rfl

theorem keys_serving : Call.keys (serving settings clause key world) world = [] := by
  refine Call.keys_eq_nil (fun call inside => ?_) world
  obtain ⟨notOpening, -⟩ := kind_of_mem_serving inside
  cases call with
  | allocate _ _ => exact absurd trivial notOpening
  | _ => rfl

theorem keys_telling (distance : Nat) : Call.keys (telling distance world) world = [] :=
  Call.keys_eq_nil (fun _ inside => eq_of_mem_telling inside ▸ rfl) world

/-- A clause of two literals or more is stored under one key, and no other clause is. -/
theorem keys_asking (settings : TierSettings) (clause : Clause) (world : ω) :
    Call.keys (asking settings clause world) world =
      if 2 ≤ clause.length then
        [(Host.allocate clause clause.distance
          (Call.after (telling clause.distance world) world)).1]
      else [] := by
  by_cases plural : 2 ≤ clause.length
  · rw [if_pos plural, asking_of_plural settings plural, Call.keys_append,
      keys_telling, List.nil_append, Call.keys]
    exact congrArg (_ :: ·) keys_serving
  · have none :=
      List.filterMap_eq_nil_iff.mp (selective_stored.asking_of_short settings plural world)
    rw [if_neg plural, Call.keys_eq_nil none]

/-- A selection that sees one call on the key of each stored clause sees the keys as they are given
out. -/
theorem keys_course {select : Call κ → Option κ} (selective : Selective select)
    (allocated : ∀ clause distance, select (.allocate clause distance) = none)
    (noted : ∀ set, select (.noteCopy set) = none)
    (keyed : ∀ key tier, (select (.markTier key tier)).toList ++
      (select (.attach key)).toList = [key])
    (settings : TierSettings) (clauses : List Clause) (ending : Ending) (world : ω) :
    (course settings clauses ending world).filterMap select =
      Call.keys (course settings clauses ending world) world := by
  have one (clause : Clause) (world : ω) :
      (asking settings clause world).filterMap select =
        Call.keys (asking settings clause world) world := by
    rw [keys_asking]
    by_cases plural : 2 ≤ clause.length
    · have unnoted : (noting settings clause).filterMap select = [] := filterMap_guarded (noted _)
      rw [selective.asking_of_plural settings plural, allocated, unnoted, if_pos plural]
      exact keyed _ _
    · rw [selective.asking_of_short settings plural, if_neg plural]
  have all (world : ω) : (askingAll settings clauses world).filterMap select =
      Call.keys (askingAll settings clauses world) world := by
    induction clauses generalizing world with
    | nil => rfl
    | cons clause clauses ih => rw [askingAll, List.filterMap_append, one, ih, Call.keys_append]
  have ended (world : ω) : Call.keys (ending.closing world) world = [] :=
    Call.keys_eq_nil (List.filterMap_eq_nil_iff.mp (selective_stored.closing ending world)) world
  rw [course, List.filterMap_append, all, selective.closing, Call.keys_append, ended]

end

section

variable (ω) in
/-- Whether no call makes a host adaptive or ends that it is. -/
def Steady : Prop :=
  ∀ (call : Call κ) (world : ω), Host.isAdaptive (call.change world) = Host.isAdaptive world

theorem Steady.after (steady : Steady ω) (calls : List (Call κ)) (world : ω) :
    Host.isAdaptive (Call.after calls world) = Host.isAdaptive world := by
  induction calls generalizing world with
  | nil => rfl
  | cons call calls ih => exact (ih _).trans (steady call world)

theorem told_telling (distance : Nat) (world : ω) :
    (telling distance world : List (Call κ)).filterMap Call.told? =
      if Host.isAdaptive world then [distance] else [] := by
  rw [telling]
  split <;> rfl

theorem told_asking (settings : TierSettings) (clause : Clause) (world : ω) :
    (asking settings clause world).filterMap Call.told? =
      if Host.isAdaptive world then [clause.distance] else [] := by
  rcases Nat.lt_or_ge 1 clause.length with plural | short
  · have untold (key : κ) (stored : ω) :
        (.allocate clause clause.distance :: serving settings clause key stored).filterMap
          Call.told? = [] := by
      refine List.filterMap_eq_nil_iff.mpr (List.forall_mem_cons.mpr ⟨rfl, fun call inside => ?_⟩)
      obtain ⟨notOpening, -⟩ := kind_of_mem_serving inside
      cases call with
      | recordDistance _ => exact absurd trivial notOpening
      | _ => rfl
    rw [asking_of_plural settings plural, List.filterMap_append, told_telling,
      untold, List.append_nil]
  · match clause, short with
    | [], _ => exact told_telling 0 world
    | [literal], _ =>
      rw [asking, List.filterMap_append, told_telling, filterMap_guarded rfl, List.append_nil]

/-- A host that stays adaptive is told the distance of each clause once, in order, and one that
stays otherwise is told none. -/
theorem told_course (steady : Steady ω) (settings : TierSettings)
    (clauses : List Clause) (ending : Ending) (world : ω) :
    (course settings clauses ending world).filterMap Call.told? =
      if Host.isAdaptive world then clauses.map Clause.distance ++ ending.distances else [] := by
  have all (world : ω) : (askingAll settings clauses world).filterMap Call.told? =
      if Host.isAdaptive world then clauses.map Clause.distance else [] := by
    induction clauses generalizing world with
    | nil => exact (ite_self _).symm
    | cons clause clauses ih =>
      rw [askingAll, List.filterMap_append, told_asking, ih, steady.after]
      split <;> rfl
  have ended (world : ω) : (ending.closing world).filterMap Call.told? =
      if Host.isAdaptive world then ending.distances else [] := by
    unfold Ending.closing
    split
    · exact told_telling 0 world
    · exact (ite_self _).symm
    · rename_i reason other
      rw [Ending.distances]
      · exact (ite_self _).symm
      · exact other
    · rw [List.filterMap_append, told_telling]
      exact List.append_nil _
  rw [course, List.filterMap_append, all, ended, steady.after]
  split <;> rfl

end

/-- What the calls of an import come to, given the clauses that are taken in, how it ends and the
world from which they are made. -/
structure Protocol (settings : TierSettings) (clauses : List Clause) (ending : Ending) (world : ω)
    (calls : List (Call κ)) : Prop where
  fits : ∀ front call rest, calls = front ++ call :: rest →
    Fits settings clauses ending world front call rest
  /-- Each clause of two literals or more is stored once, in order. -/
  stored : calls.filterMap Call.stored? = clauses.filterMap fun clause =>
    if 2 ≤ clause.length then some (clause, min clause.length 255) else none
  /-- Each key that is given out is marked with a tier once, in order. -/
  marked : calls.filterMap Call.marked? = Call.keys calls world
  /-- Each key that is given out is attached once, in order. -/
  attached : calls.filterMap Call.attached? = Call.keys calls world
  /-- A copy is noted once of each clause that is counted, in order. -/
  noted : calls.filterMap Call.noted? = clauses.filterMap fun clause =>
    if 2 ≤ clause.length ∧ Counts settings clause then some (.ofClause clause) else none
  /-- A host that stays adaptive is told each distance once, in order. -/
  told : Steady ω → calls.filterMap Call.told? =
    if Host.isAdaptive world then clauses.map Clause.distance ++ ending.distances else []
  /-- A contradiction is marked last. -/
  refuted : ∀ left, ending = .contradicted left → calls.getLast? = some .setUnsatisfiable

theorem protocol_course (settings : TierSettings) (clauses : List Clause)
    (ending : Ending) (world : ω) :
    Protocol settings clauses ending world (course settings clauses ending world) where
  fits := everywhere_course settings ending clauses world
  stored := stored_course settings clauses ending world
  marked := keys_course selective_marked (fun _ _ => rfl) (fun _ => rfl) (fun _ _ => rfl) ..
  attached := keys_course selective_attached (fun _ _ => rfl) (fun _ => rfl) (fun _ _ => rfl) ..
  noted := noted_course settings clauses ending world
  told steady := told_course steady settings clauses ending world
  refuted := by
    rintro left rfl
    rw [course, Ending.closing, ← List.append_assoc, List.getLast?_concat]

end ImportProgress

namespace Logged

variable {ω κ : Type}

/-- Whether a log has grown by calls on the store alone. -/
def Visits (before after : Logged κ ω) : Prop :=
  ∃ asked : List (Call κ), after.calls = before.calls ++ asked.toArray ∧
    ∀ call ∈ asked, call.OnStore

theorem Visits.push {before after : Logged κ ω} (visits : Visits before after) (call : Call κ)
    (onStore : call.OnStore) (world : ω) : Visits before ⟨after.calls.push call, world⟩ := by
  obtain ⟨asked, same, all⟩ := visits
  refine ⟨asked ++ [call], ?_, List.forall_mem_append.mpr
    ⟨all, List.forall_mem_singleton.mpr onStore⟩⟩
  rw [same, Array.push_eq_append, Array.append_assoc]
  exact congrArg (before.calls ++ ·) (List.append_toArray ..)

/-- Popping an inbox asks nothing of the host. -/
theorem visits_popInbox [Store ω] (inbox : String) (before : Logged κ ω) :
    Visits before (Peer.popInbox inbox before).2 := by
  have start : Visits before before := ⟨[], Array.append_empty.symm, nofun⟩
  rw [Peer.popInbox_snd]
  rcases Store.overConnection_cases (Peer.fetchInbox inbox) before with
    ⟨reason, next, refused, same⟩ | ⟨opened, connected, same⟩
  · have reached : next = (Store.connect before).2 := congrArg Prod.snd refused.symm
    rw [same, reached]
    exact start.push .connect trivial _
  · have reached : opened = (Store.connect before).2 := congrArg Prod.snd connected.symm
    have visited : Visits before opened := reached ▸ start.push .connect trivial _
    rw [same]
    exact (Peer.fetchInbox_keeps (fun _ visits => visits.push (.listLength inbox) trivial _)
      (fun count _ visits => visits.push (.popBatch inbox count) trivial _)
      visited).push .release trivial _

end Logged

namespace Peer

open ImportProgress

/-- **What an import asks of any host.** Listing the calls of an import changes nothing about it.
Popping the inbox asks nothing of the host. Where it fails nothing else is done, and where records
come of it, the clauses of those in front of the place where the import stops are taken in, and the
calls that are made for them and for the end keep to the protocol and leave what they make of the
world. A copy is noted under the integers of its clause, which rise. -/
theorem importInbox_protocol {ω κ : Type} [Store ω] [Host ω κ] (peer : Peer κ) (before : Logged κ ω)
    (level : Host.decisionLevel before.world = 0) :
    peer.importInbox before.world = (peer.importInbox before).map id (Prod.map id Logged.world) ∧
    Logged.Visits before (popInbox peer.config.store.inbox before).2 ∧
    (∀ reason popped, popInbox peer.config.store.inbox before = (.error reason, popped) →
      (peer.importInbox before).2.2 = popped) ∧
    (∀ records popped, popInbox peer.config.store.inbox before = (.ok records, popped) →
      ∃ earlier clauses later ending last calls,
        Stops peer.config.tiers popped.world records earlier clauses later ending last ∧
        (peer.importInbox before).2.2.world = last ∧
        Logged.Grown popped (peer.importInbox before).2.2 calls ∧
        calls = course peer.config.tiers clauses ending popped.world ∧
        Protocol peer.config.tiers clauses ending popped.world calls) ∧
    ∀ clause : Clause, (LiteralSet.ofClause clause).ints.Pairwise (· < ·) ∧
      ∀ int, int ∈ (LiteralSet.ofClause clause).ints ↔ ∃ literal ∈ clause, literal.toInt = int := by
  have level : Host.decisionLevel before = 0 := level
  refine ⟨?_, Logged.visits_popInbox _ before, ?_, ?_, ?_⟩
  · exact peer.importInbox_view (Logged.respects_store.at _) Logged.respects_host before
  · intro reason popped popping
    rw [peer.importInbox_of_unpopped level popping]
  · intro records popped popping
    obtain ⟨earlier, clauses, later, ending, last, stops, reached, grown⟩ :=
      peer.integrateAll_grown records popped
    rw [peer.importInbox_of_popped level popping]
    exact ⟨earlier, clauses, later, ending, last, _, stops, reached, grown, rfl, protocol_course ..⟩
  · exact fun clause => ⟨LiteralSet.pairwise_ofClause clause, fun _ => LiteralSet.mem_ofClause⟩

/-- A clause for the second tier, one for the last tier, a unit, its opposite, and a text that is no
record. -/
def mixed : List String :=
  ["2 -3 4 5 0", "8 7 6 5 4 3 2 0", "1 0", "-1 0", "x"]

/-- What is asked for the five of them. -/
def mixedCalls : List (Call Nat) :=
  [.recordDistance 4, .allocate [⟨1, true⟩, ⟨2, false⟩, ⟨3, true⟩, ⟨4, true⟩] 4,
    .noteCopy ⟨[-3, 2, 4, 5]⟩, .markTier 0 .second, .setTouched 0 0, .attach 0,
    .decayAtoms, .decayClauses,
    .recordDistance 7,
    .allocate [⟨7, true⟩, ⟨6, true⟩, ⟨5, true⟩, ⟨4, true⟩, ⟨3, true⟩, ⟨2, true⟩, ⟨1, true⟩] 7,
    .noteCopy ⟨[2, 3, 4, 5, 6, 7, 8]⟩, .markTier 1 .active, .bumpClause 1, .attach 1, .decayAtoms,
    .decayClauses, .recordDistance 1, .assign ⟨0, true⟩, .recordDistance 1, .setUnsatisfiable]

theorem importInbox_protocol_mixed : Host.decisionLevel (scripted mixed) = 0 ∧
    ∃ clauses ending, Protocol {} clauses ending (scripted mixed) mixedCalls := by
  have level : Host.decisionLevel (scripted mixed) = 0 := rfl
  let before : Logged Nat (World ScriptedStore ScriptedHost) := { world := scripted mixed }
  let popped : Logged Nat (World ScriptedStore ScriptedHost) :=
    { calls := #[.connect, .listLength "to_minisat", .popBatch "to_minisat" 5, .release]
      world := scripted mixed }
  have popping : popInbox ({} : Peer Nat).config.store.inbox before = (.ok mixed, popped) := rfl
  obtain ⟨-, -, -, pops, -⟩ := importInbox_protocol {} before level
  obtain ⟨earlier, clauses, later, ending, last, calls, -, -, grown, -, protocol⟩ :=
    pops _ _ popping
  have whole : (({} : Peer Nat).importInbox before).2.2.calls.toList =
      popped.calls.toList ++ mixedCalls := by
    decide +kernel
  have same : calls = mixedCalls := by
    rw [grown.listed, Array.toList_append] at whole
    exact List.append_cancel_left whole
  exact ⟨level, clauses, ending, same ▸ protocol⟩

end Peer

end ClauseSharing
