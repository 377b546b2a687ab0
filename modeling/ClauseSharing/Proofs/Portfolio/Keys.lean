import ClauseSharing.Proofs.Import.Intake
import ClauseSharing.Proofs.Publish.Advance
import ClauseSharing.Proofs.Publish.Frame
import ClauseSharing.Proofs.Store.LocalStore

/-! # No record is overwritten

All that the members of a portfolio write by publishing is listed action by action
(`Portfolio.writtenIn`). Each member advances on its own (`Portfolio.advances_run`), and where stems
differ, so do the keys of different members: no key is written twice (`Portfolio.keys_nodup`). So
what was published stands under its key to the end, unless the store is flushed or written to in
another way (`Portfolio.never_overwritten`). -/

namespace ClauseSharing

namespace World

variable {world : World LocalStore Solver}

theorem values_overConnection {α : Type}
    {command : World LocalStore Solver → Except StoreError α × World LocalStore Solver}
    (below : LocalStore → Except StoreError α × LocalStore)
    (same : ∀ world, command world = world.onStore below)
    (commands : ∀ store, (below store).2.values = store.values) :
    (Peer.raised (Store.overConnection command world)).2.store.values = world.store.values := by
  rw [Peer.raised_snd, overConnection_onStore _ below same]
  exact world.store.values_overConnection commands

/-- What stands under the keys after a publication is what stood there, with all that the
publication wrote put in one after the other. -/
theorem values_publish (peer : Peer LearntKey) (world : World LocalStore Solver) :
    (peer.publish world.host.literals? world).2.2.store.values =
      (PeerAction.publish.written peer world).foldl LocalStore.write world.store.values := by
  -- Every command keeps the values in step with the account.
  let holds : Ledger (World LocalStore Solver) → Prop := fun ledger =>
    ledger.world.store.values =
      (Attempt.written ledger.attempts).foldl LocalStore.write world.store.values
  have keeps : Publish.Keeps (fun _ => True) holds := by
    refine ⟨?_, fun _ before => before, ?_⟩
    · intro ledger before
      exact (ledger.world.store.values_connect).trans before
    · intro writes ledger _ before
      have written : Attempt.written (Store.writeBatch writes ledger).2.attempts =
          Attempt.written ledger.attempts ++ writes := by
        rw [Ledger.writeBatch_eq, Attempt.written_append, Attempt.written_cons, Attempt.written_nil,
          List.append_nil]
      change (ledger.world.store.writeBatch writes).2.values = _
      rw [LocalStore.values_writeBatch, written, List.foldl_append]
      exact congrArg (writes.foldl LocalStore.write) before
  have start : holds { world } := rfl
  have kept : holds (peer.publish world.host.literals? { world }).2.2 :=
    (Peer.publish_keeps keeps (fun _ _ _ => trivial) (fun _ _ _ _ => trivial) start).2
  rw [← Peer.publish_forget peer world.host.literals? { world }]
  exact kept

theorem values_importInbox (peer : Peer LearntKey) (world : World LocalStore Solver) :
    (peer.importInbox world).2.2.store.values = world.store.values := by
  have popped := world.store.values_popInbox peer.config.store.inbox
  rcases peer.importInbox_cases world with ⟨reason, decided⟩ | ⟨reason, store, popping, unpopped⟩ |
    ⟨records, store, -, popping, outcome, report, tally, last, imported, same, -⟩
  · rw [decided]
  · rw [popping] at popped
    rw [unpopped]
    exact popped
  · rw [popping] at popped
    rw [imported]
    dsimp only
    rw [same]
    exact popped

end World

/-- Whether an action writes under keys at most by publishing. -/
def PortfolioAction.Quiet : PortfolioAction → Prop
  | .peer _ .flushStore | .store (.over _ .flush) | .store (.over _ (.writeBatch _)) => False
  | _ => True

namespace PeerAction

variable {peer : Peer LearntKey} {world : World LocalStore Solver}

theorem values_perform {action : PeerAction} (quiet : action ≠ .flushStore) :
    (action.perform peer world).2.2.store.values =
      (action.written peer world).foldl LocalStore.write world.store.values := by
  have pushed (records : List String) :
      (peer.pushInbox records world).2.store.values = world.store.values :=
    World.values_overConnection (Store.push peer.config.store.inbox records) (fun _ => rfl)
      fun _ => rfl
  cases action with
  | queueUnit _ | queueClause _ => rfl
  | publish => exact World.values_publish peer world
  | importInbox => exact World.values_importInbox peer world
  | inboxLength =>
    exact World.values_overConnection (Store.listLength peer.config.store.inbox) (fun _ => rfl)
      fun _ => rfl
  | pushInbox records => exact pushed records
  | route stem => exact pushed _
  | flushStore => exact absurd rfl quiet

end PeerAction

namespace Portfolio

/-- What is written when something happens by a member that publishes, with the number of the
member. -/
def written (portfolio : Portfolio) : PortfolioAction → List (Nat × Write)
  | .peer member action =>
    match portfolio.members[member]? with
    | none => []
    | some current =>
      (action.written current.peer ⟨portfolio.store, current.solver⟩).map fun pair => (member, pair)
  | _ => []

/-- All that is written by members that publish while one thing happens after another. -/
def writtenIn (portfolio : Portfolio) : List PortfolioAction → List (Nat × Write)
  | [] => []
  | action :: actions => portfolio.written action ++ (portfolio.perform action).2.writtenIn actions

/-- What one member has written of all that was. -/
def writtenBy (place : Nat) (entries : List (Nat × Write)) : List Write :=
  (entries.filter fun entry => entry.1 = place).map Prod.snd

theorem writtenBy_append (place : Nat) (front rest : List (Nat × Write)) :
    writtenBy place (front ++ rest) = writtenBy place front ++ writtenBy place rest := by
  simp only [writtenBy, List.filter_append, List.map_append]

theorem writtenBy_self (place : Nat) (pairs : List Write) :
    writtenBy place (pairs.map fun pair => (place, pair)) = pairs := by
  have own : ∀ entry ∈ pairs.map fun pair => (place, pair), decide (entry.1 = place) = true := by
    intro entry inside
    obtain ⟨pair, -, rfl⟩ := List.mem_map.mp inside
    exact decide_eq_true rfl
  rw [writtenBy, List.filter_eq_self.mpr own, List.map_map]
  exact List.map_id pairs

theorem writtenBy_of_ne {place member : Nat} (other : member ≠ place) (pairs : List Write) :
    writtenBy place (pairs.map fun pair => (member, pair)) = [] := by
  rw [writtenBy, List.map_eq_nil_iff, List.filter_eq_nil_iff]
  intro entry inside
  obtain ⟨pair, -, rfl⟩ := List.mem_map.mp inside
  rwa [decide_eq_true_iff]

variable {portfolio : Portfolio} {place : Nat} {current : Member}

theorem members_performStore (action : StoreAction) :
    (portfolio.performStore action).2.members = portfolio.members := by
  match action with
  | .setUnreachable _ | .setReplyLimit _ | .setPopLimit _ => rfl
  | .connect connection =>
    rw [performStore]
    generalize portfolio.store.connect = answer
    obtain ⟨outcome, store⟩ := answer
    cases outcome <;> rfl
  | .close connection =>
    rw [performStore]
    split <;> rfl
  | .over connection command =>
    rw [performStore]
    split <;> rfl

/-- Putting a member in place of one leaves the others as they are. -/
theorem getElem?_setMember {members : Array Member} (found : members[place]? = some current)
    (member : Nat) (new : Member) :
    (members.setIfInBounds member new)[place]? = if member = place then
      some new else some current := by
  rw [Array.getElem?_setIfInBounds]
  split
  · rename_i same
    subst same
    exact if_pos (Array.getElem?_eq_some_iff.mp found).1
  · exact found

/-- **One action takes a member forward**, by what it writes itself in it. -/
theorem advances_perform (found : portfolio.members[place]? = some current)
    (action : PortfolioAction) :
    ∃ next, (portfolio.perform action).2.members[place]? = some next ∧
      current.peer.Advances (writtenBy place (portfolio.written action)) next.peer := by
  cases action with
  | solver member action =>
    have nothing : writtenBy place (portfolio.written (.solver member action)) = [] := rfl
    rw [perform, nothing]
    cases acting : portfolio.members[member]? with
    | none => exact ⟨current, found, .refl rfl rfl rfl⟩
    | some actor =>
      dsimp only
      rw [getElem?_setMember found]
      split
      · rename_i same
        subst same
        cases acting.symm.trans found
        exact ⟨_, rfl, .refl rfl rfl rfl⟩
      · exact ⟨current, rfl, .refl rfl rfl rfl⟩
  | peer member action =>
    rw [perform, written]
    cases acting : portfolio.members[member]? with
    | none => exact ⟨current, found, .refl rfl rfl rfl⟩
    | some actor =>
      dsimp only
      rw [getElem?_setMember found]
      split
      · rename_i same
        subst same
        cases acting.symm.trans found
        rw [writtenBy_self]
        exact ⟨_, rfl, action.advances ..⟩
      · rename_i other
        rw [writtenBy_of_ne other]
        exact ⟨current, rfl, .refl rfl rfl rfl⟩
  | store action =>
    refine ⟨current, ?_, .refl rfl rfl rfl⟩
    rw [perform, members_performStore]
    exact found

/-- A run takes a member forward by all that it writes itself. -/
theorem advances_run (found : portfolio.members[place]? = some current)
    (actions : List PortfolioAction) :
    ∃ last, (portfolio.run actions).2.members[place]? = some last ∧
      current.peer.Advances (writtenBy place (portfolio.writtenIn actions)) last.peer := by
  -- The member is looked up anew after each action, with the number it always had.
  induction actions generalizing portfolio current with
  | nil => exact ⟨current, found, .refl rfl rfl rfl⟩
  | cons action actions ih =>
    obtain ⟨next, stands, first⟩ := advances_perform found action
    obtain ⟨last, ends, others⟩ := ih stands
    refine ⟨last, ends, ?_⟩
    rw [writtenIn, writtenBy_append]
    exact first.trans others

theorem size_perform (portfolio : Portfolio) (action : PortfolioAction) :
    (portfolio.perform action).2.members.size = portfolio.members.size := by
  cases action with
  | solver member action | peer member action =>
    rw [perform]
    cases portfolio.members[member]? with
    | none => rfl
    | some actor => exact Array.size_setIfInBounds
  | store action => exact congrArg Array.size (members_performStore action)

theorem lt_size_of_mem_writtenIn {actions : List PortfolioAction} {entry : Nat × Write}
    (inside : entry ∈ portfolio.writtenIn actions) : entry.1 < portfolio.members.size := by
  induction actions generalizing portfolio with
  | nil => exact absurd inside List.not_mem_nil
  | cons action actions ih =>
    rcases List.mem_append.mp inside with now | later
    · cases action with
      | solver _ _ | store _ => exact absurd now List.not_mem_nil
      | peer member action =>
        rw [written] at now
        cases acting : portfolio.members[member]? with
        | none =>
          rw [acting] at now
          exact absurd now List.not_mem_nil
        | some actor =>
          rw [acting] at now
          obtain ⟨pair, -, rfl⟩ := List.mem_map.mp now
          exact (Array.getElem?_eq_some_iff.mp acting).1
    · rw [← portfolio.size_perform action]
      exact ih later

/-- What is written goes under the key of a record of the member that writes it. -/
theorem exists_key_of_mem_writtenIn {actions : List PortfolioAction} {entry : Nat × Write}
    (inside : entry ∈ portfolio.writtenIn actions) :
    ∃ current identifier, portfolio.members[entry.1]? = some current ∧
      entry.2.1 = current.peer.config.store.recordKey identifier := by
  have found := Array.getElem?_eq_getElem (lt_size_of_mem_writtenIn inside)
  obtain ⟨last, -, advances⟩ := advances_run found actions
  obtain ⟨identifiers, keys, -⟩ := advances.rising
  have own : entry.2.1 ∈ (writtenBy entry.1 (portfolio.writtenIn actions)).map Prod.fst := by
    apply List.mem_map_of_mem
    apply List.mem_map_of_mem
    exact List.mem_filter.mpr ⟨inside, decide_eq_true rfl⟩
  rw [keys] at own
  obtain ⟨identifier, -, same⟩ := List.mem_map.mp own
  exact ⟨_, identifier, found, same.symm⟩

/-- Whether no two members write under one stem. -/
def StemsDiffer (portfolio : Portfolio) : Prop :=
  (portfolio.members.toList.map fun member => member.peer.config.store.stem).Nodup

instance (portfolio : Portfolio) : Decidable portfolio.StemsDiffer :=
  inferInstanceAs (Decidable (List.Nodup _))

/-- Where something differs between members, it tells their numbers. -/
theorem eq_of_nodup {α : Type} {trait : Member → α}
    (differ : (portfolio.members.toList.map trait).Nodup) {one other : Nat} {first second : Member}
    (firstFound : portfolio.members[one]? = some first)
    (secondFound : portfolio.members[other]? = some second) (same : trait first = trait second) :
    one = other := by
  have bound : one < portfolio.members.size := (Array.getElem?_eq_some_iff.mp firstFound).1
  refine (List.getElem?_inj ?_ differ).mp ?_
  · rwa [List.length_map, Array.length_toList]
  · rw [List.getElem?_map, List.getElem?_map, Array.getElem?_toList, Array.getElem?_toList,
      firstFound, secondFound, Option.map_some, Option.map_some, same]

/-- **No key is written twice** by members that publish, whatever else happens in between. -/
theorem keys_nodup (differ : portfolio.StemsDiffer) (actions : List PortfolioAction) :
    ((portfolio.writtenIn actions).map fun entry => entry.2.1).Nodup := by
  rw [List.Nodup, List.pairwise_map, List.pairwise_iff_forall_sublist]
  intro earlier later ordered
  have first := ordered.subset List.mem_cons_self
  have second := ordered.subset (List.mem_cons_of_mem _ (List.mem_singleton_self _))
  obtain ⟨one, oneIdentifier, oneFound, oneKey⟩ := exists_key_of_mem_writtenIn first
  obtain ⟨other, otherIdentifier, otherFound, otherKey⟩ := exists_key_of_mem_writtenIn second
  intro same
  by_cases member : earlier.1 = later.1
  · -- One member does not go back to an identifier.
    obtain ⟨_, -, advances⟩ := advances_run oneFound actions
    have both : [earlier.2.1, later.2.1].Sublist
        ((writtenBy earlier.1 (portfolio.writtenIn actions)).map Prod.fst) := by
      have own : [earlier, later].filter (fun entry => entry.1 = earlier.1) = [earlier, later] := by
        simp only [List.filter_cons, member, decide_true, ↓reduceIte, List.filter_nil]
      have kept := ((ordered.filter fun entry => entry.1 = earlier.1).map Prod.snd).map Prod.fst
      rwa [own] at kept
    exact List.pairwise_iff_forall_sublist.mp advances.keys_nodup both same
  · -- The keys of different members differ in the stem.
    rw [oneKey, otherKey] at same
    exact member (eq_of_nodup differ oneFound otherFound (StoreSettings.recordKey_injective same).1)

theorem values_performStore {action : StoreAction} (quiet : (PortfolioAction.store action).Quiet) :
    (portfolio.performStore action).2.store.values = portfolio.store.values := by
  match action, quiet with
  | .setUnreachable _, _ | .setReplyLimit _, _ | .setPopLimit _, _ => rfl
  | .connect connection, _ =>
    have connected := portfolio.store.values_connect
    rw [performStore]
    generalize portfolio.store.connect = answer at connected ⊢
    obtain ⟨outcome, store⟩ := answer
    cases outcome with
    | error reason => exact connected
    | ok _ =>
      dsimp only
      split
      · exact connected
      · exact connected
  | .close connection, _ =>
    rw [performStore]
    split
    · rfl
    · rfl
  | .over connection command, quiet =>
    rw [performStore]
    split
    · match command, quiet with
      | .listLength _, _ | .push _ _, _ => rfl
      | .popBatch name count, _ => exact portfolio.store.values_popBatch name count
    · rfl

/-- A quiet action adds what is published in it, and nothing else, to what stands under the keys. -/
theorem values_perform {action : PortfolioAction} (quiet : action.Quiet) :
    (portfolio.perform action).2.store.values =
      ((portfolio.written action).map Prod.snd).foldl LocalStore.write portfolio.store.values := by
  cases action with
  | solver member action =>
    rw [perform]
    cases portfolio.members[member]? with
    | none => rfl
    | some current => rfl
  | peer member action =>
    rw [perform, written]
    cases portfolio.members[member]? with
    | none => rfl
    | some current =>
      have asked : action ≠ .flushStore := by
        rintro rfl
        exact quiet
      dsimp only
      rw [List.map_map]
      exact (PeerAction.values_perform asked).trans (congrArg _ (List.map_id _).symm)
  | store action => exact values_performStore quiet

theorem values_run {actions : List PortfolioAction} (quiet : ∀ action ∈ actions, action.Quiet) :
    (portfolio.run actions).2.store.values =
      ((portfolio.writtenIn actions).map Prod.snd).foldl LocalStore.write
        portfolio.store.values := by
  induction actions generalizing portfolio with
  | nil => rfl
  | cons action actions ih =>
    obtain ⟨first, others⟩ := List.forall_mem_cons.mp quiet
    rw [writtenIn, List.map_append, List.foldl_append, ← values_perform first]
    exact ih others

/-- **No published record is overwritten.** The key of a record tells the stem and the identifier.
In a portfolio whose stems differ, whatever happens and whatever comes of it, no key is written
twice by publishing, and every member advances by what it writes. Unless the store is flushed or
written to in another way, everything that was published stands under its key in the end. -/
theorem never_overwritten (differ : portfolio.StemsDiffer) (actions : List PortfolioAction) :
    (∀ (one other : StoreSettings) (first second : Nat),
      one.recordKey first = other.recordKey second → one.stem = other.stem ∧ first = second) ∧
    ((portfolio.writtenIn actions).map fun entry => entry.2.1).Nodup ∧
    (∀ (place : Nat) (current : Member), portfolio.members[place]? = some current →
      ∃ last, (portfolio.run actions).2.members[place]? = some last ∧
        current.peer.Advances (writtenBy place (portfolio.writtenIn actions)) last.peer) ∧
    ((∀ action ∈ actions, action.Quiet) → ∀ entry ∈ portfolio.writtenIn actions,
      (portfolio.run actions).2.store.value? entry.2.1 = some entry.2.2) := by
  have nodup := keys_nodup differ actions
  refine ⟨fun _ _ _ _ => StoreSettings.recordKey_injective, nodup,
    fun _ _ found => advances_run found actions, ?_⟩
  intro quiet entry inside
  have apart : ((portfolio.writtenIn actions).map Prod.snd).Pairwise
      fun first second => first.1 ≠ second.1 := by
    rw [List.pairwise_map]
    exact List.pairwise_map.mp nodup
  rw [LocalStore.value?, values_run quiet]
  exact LocalStore.getElem?_writes_of_mem apart (List.mem_map_of_mem inside)

/-- Two members, where the stem of one looks like a key of the other. -/
def namesakes (config : Config) : Portfolio where
  members := #[.starting "first" { config with store := { config.store with stem := "a" } } 1,
    .starting "second" { config with store := { config.store with stem := "a:1" } } 0]

/-- The first member publishes in vain, the second one publishes, and the first one again. -/
def quarrel : List PortfolioAction :=
  [.peer 0 (.queueUnit ⟨0, true⟩), .peer 1 (.queueUnit ⟨1, false⟩),
    .store (.setReplyLimit (some 0)), .peer 0 .publish, .store (.setReplyLimit none),
    .peer 1 .publish, .peer 0 .publish]

theorem never_overwritten_quarrel : ∃ config : Config, (namesakes config).StemsDiffer ∧
    (∀ action ∈ quarrel, action.Quiet) ∧
    ((namesakes config).writtenIn quarrel).map Prod.snd =
      [("a:1", "1 0"), ("a:1:0", "-2 0"), ("a:2", "1 0")] ∧
    (((namesakes config).writtenIn quarrel).map fun entry => entry.2.1).Nodup ∧
    ∀ entry ∈ (namesakes config).writtenIn quarrel,
      ((namesakes config).run quarrel).2.store.value? entry.2.1 = some entry.2.2 := by
  have differ : (namesakes {}).StemsDiffer := by decide
  have quiet : ∀ action ∈ quarrel, action.Quiet := by
    simp only [quarrel, List.forall_mem_cons, PortfolioAction.Quiet, true_and]
    exact fun _ none => absurd none List.not_mem_nil
  obtain ⟨-, nodup, -, kept⟩ := never_overwritten differ quarrel
  exact ⟨{}, differ, quiet, by decide +kernel, nodup, kept quiet⟩

end Portfolio

end ClauseSharing
