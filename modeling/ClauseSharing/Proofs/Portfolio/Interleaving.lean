import ClauseSharing.Proofs.Portfolio.OwnActions

/-! # Members do not interfere

Members that differ in stem and inbox act on different parts of the store they share, so two actions
of different members can be swapped: neither notices, and the same comes of them
(`Portfolio.perform_comm`). An action can then be brought in front of all that other members do
before it (`Portfolio.perform_after_others`), and whatever the order in which the actions of members
are interleaved, every member gets the same answers and the portfolio is the same in the end
(`Portfolio.interleaving_irrelevant`). -/

namespace ClauseSharing

/-- What stands under a number, in order. -/
def sequenceOf {α : Type} (place : Nat) (entries : List (Nat × α)) : List α :=
  entries.filterMap fun entry => if entry.1 = place then some entry.2 else none

section

variable {α : Type} {place other : Nat} {value : α} {entries front rest : List (Nat × α)}

theorem sequenceOf_cons_self :
    sequenceOf place ((place, value) :: entries) = value :: sequenceOf place entries :=
  List.filterMap_cons_some (if_pos rfl)

theorem sequenceOf_cons_of_ne {entry : Nat × α} (apart : entry.1 ≠ place) :
    sequenceOf place (entry :: entries) = sequenceOf place entries :=
  List.filterMap_cons_none (if_neg apart)

theorem sequenceOf_append :
    sequenceOf place (front ++ rest) = sequenceOf place front ++ sequenceOf place rest :=
  List.filterMap_append

theorem mem_sequenceOf : value ∈ sequenceOf place entries ↔ (place, value) ∈ entries := by
  rw [sequenceOf, List.mem_filterMap]
  constructor
  · rintro ⟨⟨number, _⟩, listed, found⟩
    by_cases same : number = place
    · rw [if_pos same] at found
      cases found
      rwa [← same]
    · rw [if_neg same] at found
      cases found
  · intro listed
    exact ⟨_, listed, if_pos rfl⟩

theorem sequenceOf_filter (kept : Nat → Bool) :
    sequenceOf place (entries.filter fun entry => kept entry.1) =
      if kept place then sequenceOf place entries else [] := by
  split
  · rename_i keeps
    have skipped : (fun entry : Nat × α =>
        if kept entry.1 then (if entry.1 = place then some entry.2 else none) else none) =
      fun entry => if entry.1 = place then some entry.2 else none := by
      funext entry
      by_cases same : entry.1 = place
      · rw [same, if_pos keeps]
      · rw [if_neg same, ite_self]
    rw [sequenceOf, List.filterMap_filter, skipped]
    rfl
  · rename_i drops
    rw [List.eq_nil_iff_forall_not_mem]
    intro value inside
    exact drops (List.mem_filter.mp (mem_sequenceOf.mp inside)).2

theorem sequenceOf_of_others (others : ∀ entry ∈ entries, entry.1 ≠ place) :
    sequenceOf place entries = [] := by
  rw [List.eq_nil_iff_forall_not_mem]
  intro value inside
  exact others _ (mem_sequenceOf.mp inside) rfl

/-- The first of what stands under a number comes behind what stands under others. -/
theorem exists_split_of_sequenceOf {values : List α}
    (starts : sequenceOf place entries = value :: values) :
    ∃ front rest, entries = front ++ (place, value) :: rest ∧ ∀ entry ∈ front, entry.1 ≠ place := by
  induction entries with
  | nil => cases starts
  | cons entry entries ih =>
    by_cases same : entry.1 = place
    · obtain ⟨_, first⟩ := entry
      cases same
      rw [sequenceOf_cons_self] at starts
      cases (List.cons.inj starts).1
      exact ⟨[], entries, rfl, fun _ none => absurd none List.not_mem_nil⟩
    · rw [sequenceOf_cons_of_ne same] at starts
      obtain ⟨front, rest, split, others⟩ := ih starts
      exact ⟨entry :: front, rest, by rw [split, List.cons_append],
        List.forall_mem_cons.mpr ⟨same, others⟩⟩

end

namespace Portfolio

/-- Lets members act one after another, each under its number, and returns what came of each action
under the number of the member. -/
def runMembers (portfolio : Portfolio) (entries : List (Nat × MemberAction)) :
    List (Nat × Answer) × Portfolio :=
  let (answers, last) := portfolio.run (entries.map fun entry => entry.2.toPortfolio entry.1)
  ((entries.map Prod.fst).zip answers, last)

/-- Whether no two members have one inbox. -/
def InboxesDiffer (portfolio : Portfolio) : Prop :=
  (portfolio.members.toList.map fun member => member.peer.config.store.inbox).Nodup

instance (portfolio : Portfolio) : Decidable portfolio.InboxesDiffer :=
  inferInstanceAs (Decidable (List.Nodup _))

/-- Whether different members differ in stem and inbox. -/
def Apart (portfolio : Portfolio) : Prop :=
  ∀ (one other : Nat) (first second : Member), one ≠ other →
    portfolio.members[one]? = some first → portfolio.members[other]? = some second →
    first.peer.config.store.stem ≠ second.peer.config.store.stem ∧
      first.peer.config.store.inbox ≠ second.peer.config.store.inbox

variable {portfolio : Portfolio} {place : Nat} {member : Member} {action : MemberAction}

theorem apart_of_differ (stems : portfolio.StemsDiffer) (inboxes : portfolio.InboxesDiffer) :
    portfolio.Apart := by
  intro one other first second apart firstFound secondFound
  exact ⟨fun same => apart (eq_of_nodup stems firstFound secondFound same),
    fun same => apart (eq_of_nodup inboxes firstFound secondFound same)⟩

/-- Whatever happens, a member of a portfolio was one before, configured in the same way. -/
theorem exists_before (action : PortfolioAction) {after : Member}
    (found : (portfolio.perform action).2.members[place]? = some after) :
    ∃ before, portfolio.members[place]? = some before ∧
      after.peer.config = before.peer.config := by
  have bound := (Array.getElem?_eq_some_iff.mp found).1
  rw [size_perform] at bound
  have stood := Array.getElem?_eq_getElem bound
  obtain ⟨next, stands, advances⟩ := advances_perform stood action
  cases found.symm.trans stands
  exact ⟨_, stood, advances.config⟩

theorem Apart.perform (apart : portfolio.Apart) (action : PortfolioAction) :
    (portfolio.perform action).2.Apart := by
  intro one other first second different firstFound secondFound
  obtain ⟨_, firstStood, firstConfig⟩ := exists_before action firstFound
  obtain ⟨_, secondStood, secondConfig⟩ := exists_before action secondFound
  rw [firstConfig, secondConfig]
  exact apart one other _ _ different firstStood secondStood

theorem perform_of_some (found : portfolio.members[place]? = some member) (action : MemberAction) :
    portfolio.perform (action.toPortfolio place) =
      ((action.perform member portfolio.store).1, { portfolio with
        store := (action.perform member portfolio.store).2.2
        members := portfolio.members.setIfInBounds place
          (action.perform member portfolio.store).2.1 }) := by
  cases action with
  | solver action => simp only [MemberAction.toPortfolio, perform, found, MemberAction.perform]
  | peer action => simp only [MemberAction.toPortfolio, perform, found, MemberAction.perform]

theorem perform_of_none (none : portfolio.members[place]? = none) (action : MemberAction) :
    portfolio.perform (action.toPortfolio place) = (.noMember, portfolio) := by
  cases action with
  | solver action => simp only [MemberAction.toPortfolio, perform, none]
  | peer action => simp only [MemberAction.toPortfolio, perform, none]

theorem members_perform_of_ne {other : Nat} (apart : place ≠ other) (action : MemberAction) :
    (portfolio.perform (action.toPortfolio place)).2.members[other]? =
      portfolio.members[other]? := by
  cases found : portfolio.members[place]? with
  | none => rw [perform_of_none found]
  | some member =>
    rw [perform_of_some found]
    exact Array.getElem?_setIfInBounds_ne apart

variable {one other : Nat} {first second : MemberAction}

/-- **Actions of different members can be swapped**: the same comes of each, and the same is
left. -/
theorem perform_comm (apart : portfolio.Apart) (different : one ≠ other) (firstOwn : first.Own)
    (secondOwn : second.Own) :
    let begun := portfolio.perform (first.toPortfolio one)
    let swapped := portfolio.perform (second.toPortfolio other)
    (begun.2.perform (second.toPortfolio other)).1 = swapped.1 ∧
      (swapped.2.perform (first.toPortfolio one)).1 = begun.1 ∧
      (begun.2.perform (second.toPortfolio other)).2 =
        (swapped.2.perform (first.toPortfolio one)).2 := by
  intro begun swapped
  have secondStill : begun.2.members[other]? = portfolio.members[other]? :=
    members_perform_of_ne different first
  have firstStill : swapped.2.members[one]? = portfolio.members[one]? :=
    members_perform_of_ne different.symm second
  cases firstFound : portfolio.members[one]? with
  | none =>
    have idle : begun = (.noMember, portfolio) := perform_of_none firstFound first
    rw [firstFound] at firstStill
    rw [perform_of_none firstStill, idle]
    exact ⟨rfl, rfl, rfl⟩
  | some actor =>
    cases secondFound : portfolio.members[other]? with
    | none =>
      have idle : swapped = (.noMember, portfolio) := perform_of_none secondFound second
      rw [secondFound] at secondStill
      rw [perform_of_none secondStill, idle]
      exact ⟨rfl, rfl, rfl⟩
    | some rival =>
      obtain ⟨stems, inboxes⟩ := apart one other actor rival different firstFound secondFound
      rw [firstFound] at firstStill
      rw [secondFound] at secondStill
      -- What each does to its part is put back into the store, before or after the other.
      have firstPart := first.partOf firstOwn actor portfolio.store
      have secondPart := second.partOf secondOwn rival portfolio.store
      have begins : begun = _ := perform_of_some firstFound first
      have swaps : swapped = _ := perform_of_some secondFound second
      rw [MemberAction.perform_eq_ownPart firstOwn] at begins
      rw [MemberAction.perform_eq_ownPart secondOwn] at swaps
      rw [perform_of_some secondStill, perform_of_some firstStill,
        MemberAction.perform_eq_ownPart firstOwn, MemberAction.perform_eq_ownPart secondOwn, begins,
        swaps]
      dsimp only [Prod.map, id]
      rw [LocalStore.ownPart_withPart firstPart inboxes,
        LocalStore.ownPart_withPart secondPart inboxes.symm,
        LocalStore.withPart_comm firstPart secondPart stems inboxes,
        Array.setIfInBounds_comm _ _ different]
      exact ⟨rfl, rfl, rfl⟩

theorem runMembers_cons (portfolio : Portfolio) (entry : Nat × MemberAction)
    (entries : List (Nat × MemberAction)) :
    portfolio.runMembers (entry :: entries) =
      ((entry.1, (portfolio.perform (entry.2.toPortfolio entry.1)).1) ::
          ((portfolio.perform (entry.2.toPortfolio entry.1)).2.runMembers entries).1,
        ((portfolio.perform (entry.2.toPortfolio entry.1)).2.runMembers entries).2) := rfl

theorem runMembers_append (portfolio : Portfolio) (front rest : List (Nat × MemberAction)) :
    portfolio.runMembers (front ++ rest) =
      ((portfolio.runMembers front).1 ++ ((portfolio.runMembers front).2.runMembers rest).1,
        ((portfolio.runMembers front).2.runMembers rest).2) := by
  induction front generalizing portfolio with
  | nil => rfl
  | cons entry front ih =>
    rw [List.cons_append, runMembers_cons, ih, runMembers_cons, List.cons_append]

/-- Where others act, a member gets no answers. -/
theorem answers_of_others (portfolio : Portfolio) {entries : List (Nat × MemberAction)}
    (others : ∀ entry ∈ entries, entry.1 ≠ place) :
    sequenceOf place (portfolio.runMembers entries).1 = [] := by
  apply sequenceOf_of_others
  intro answer inside
  obtain ⟨entry, listed, number⟩ := List.mem_map.mp (List.of_mem_zip inside).1
  rw [← number]
  exact others entry listed

/-- Where others act, a member stays as it is. -/
theorem member_of_others (portfolio : Portfolio) {entries : List (Nat × MemberAction)}
    (others : ∀ entry ∈ entries, entry.1 ≠ place) :
    (portfolio.runMembers entries).2.members[place]? = portfolio.members[place]? := by
  induction entries generalizing portfolio with
  | nil => rfl
  | cons entry entries ih =>
    obtain ⟨first, rest⟩ := List.forall_mem_cons.mp others
    rw [runMembers_cons, ih _ rest, members_perform_of_ne first]

/-- **An action can be brought in front** of all that other members do before it. -/
theorem perform_after_others (apart : portfolio.Apart) (own : action.Own)
    {front : List (Nat × MemberAction)} (others : ∀ entry ∈ front, entry.1 ≠ place)
    (owns : ∀ entry ∈ front, entry.2.Own) :
    let late := (portfolio.runMembers front).2.perform (action.toPortfolio place)
    let early := portfolio.perform (action.toPortfolio place)
    late.1 = early.1 ∧ (portfolio.runMembers front).1 = (early.2.runMembers front).1 ∧
      late.2 = (early.2.runMembers front).2 := by
  induction front generalizing portfolio with
  | nil => exact ⟨rfl, rfl, rfl⟩
  | cons entry front ih =>
    obtain ⟨other, rest⟩ := List.forall_mem_cons.mp others
    obtain ⟨entryOwn, restOwn⟩ := List.forall_mem_cons.mp owns
    obtain ⟨later, sooner, left⟩ := perform_comm apart other entryOwn own
    obtain ⟨answer, answers, last⟩ := ih (apart.perform (entry.2.toPortfolio entry.1)) rest restOwn
    intro late early
    rw [runMembers_cons, runMembers_cons]
    dsimp only
    rw [sooner, ← left]
    exact ⟨answer.trans later, congrArg (List.cons _) answers, last⟩

/-- However the same sequences of actions are interleaved, the same is left and every member gets
the same answers. -/
theorem runMembers_of_sequences (apart : portfolio.Apart) {one other : List (Nat × MemberAction)}
    (own : ∀ entry ∈ one, entry.2.Own)
    (same : ∀ place, sequenceOf place one = sequenceOf place other) :
    (portfolio.runMembers one).2 = (portfolio.runMembers other).2 ∧
      ∀ place, sequenceOf place (portfolio.runMembers one).1 =
        sequenceOf place (portfolio.runMembers other).1 := by
  -- The first action of the one is brought in front in the other.
  induction one generalizing portfolio other with
  | nil =>
    have none : other = [] := by
      rw [List.eq_nil_iff_forall_not_mem]
      intro entry inside
      have listed : entry.2 ∈ sequenceOf entry.1 other := mem_sequenceOf.mpr inside
      rw [← same] at listed
      cases listed
    rw [none]
    exact ⟨rfl, fun _ => rfl⟩
  | cons entry rest ih =>
    obtain ⟨place, action⟩ := entry
    obtain ⟨actionOwn, restOwn⟩ := List.forall_mem_cons.mp own
    have starts := same place
    rw [sequenceOf_cons_self] at starts
    obtain ⟨front, back, rfl, others⟩ := exists_split_of_sequenceOf starts.symm
    have frontOwn : ∀ entry ∈ front, entry.2.Own := by
      intro entry inside
      have listed : entry.2 ∈ sequenceOf entry.1 (front ++ (place, action) :: back) :=
        mem_sequenceOf.mpr (List.mem_append_left _ inside)
      rw [← same] at listed
      exact own _ (mem_sequenceOf.mp listed)
    have remaining (number : Nat) : sequenceOf number rest = sequenceOf number (front ++ back) := by
      have all := same number
      rw [sequenceOf_append] at all ⊢
      by_cases here : place = number
      · subst here
        rw [sequenceOf_of_others others, sequenceOf_cons_self, sequenceOf_cons_self] at all
        rw [sequenceOf_of_others others]
        exact (List.cons.inj all).2
      · rw [sequenceOf_cons_of_ne here, sequenceOf_cons_of_ne here] at all
        exact all
    obtain ⟨last, answers⟩ := ih (apart.perform (action.toPortfolio place)) restOwn remaining
    obtain ⟨answer, frontAnswers, left⟩ := perform_after_others apart actionOwn others frontOwn
    dsimp only at answer frontAnswers left
    have silent := answers_of_others portfolio others
    rw [runMembers_append] at last answers
    rw [runMembers_cons, runMembers_append, runMembers_cons]
    dsimp only at last answers ⊢
    rw [answer, left]
    refine ⟨last, fun number => ?_⟩
    have others := answers number
    rw [sequenceOf_append] at others ⊢
    rw [← frontAnswers] at others
    by_cases here : place = number
    · subst here
      rw [silent] at others ⊢
      rw [sequenceOf_cons_self, sequenceOf_cons_self, others]
      rfl
    · rw [sequenceOf_cons_of_ne here, sequenceOf_cons_of_ne here]
      exact others

/-- A member gets the answers that it would get, and becomes what it would become, if it acted
alone. -/
theorem runMembers_alone (apart : portfolio.Apart) {entries : List (Nat × MemberAction)}
    (own : ∀ entry ∈ entries, entry.2.Own) (place : Nat) :
    let alone := portfolio.runMembers (entries.filter fun entry => entry.1 = place)
    sequenceOf place (portfolio.runMembers entries).1 = sequenceOf place alone.1 ∧
      (portfolio.runMembers entries).2.members[place]? = alone.2.members[place]? := by
  let mine := entries.filter fun entry => entry.1 = place
  let theirs := entries.filter fun entry => entry.1 ≠ place
  have others : ∀ entry ∈ theirs, entry.1 ≠ place := fun entry inside =>
    of_decide_eq_true (List.mem_filter.mp inside).2
  -- One's own actions can all be put in front.
  have same (number : Nat) : sequenceOf number entries = sequenceOf number (mine ++ theirs) := by
    have front : sequenceOf number mine = _ :=
      sequenceOf_filter fun number => decide (number = place)
    have back : sequenceOf number theirs = _ :=
      sequenceOf_filter fun number => decide (number ≠ place)
    rw [sequenceOf_append, front, back]
    by_cases here : number = place
    · rw [if_pos (decide_eq_true here), if_neg fun differ => absurd here (of_decide_eq_true differ),
        List.append_nil]
    · rw [if_neg fun same => here (of_decide_eq_true same), if_pos (decide_eq_true here),
        List.nil_append]
  obtain ⟨last, answers⟩ := runMembers_of_sequences apart own same
  intro alone
  rw [answers place, last, runMembers_append]
  refine ⟨?_, member_of_others _ others⟩
  rw [sequenceOf_append, answers_of_others _ others, List.append_nil]

/-- **Members do not interfere.** In a portfolio whose members differ in stem and inbox, let every
member act on its own. However the same sequences of actions are interleaved, the portfolio is the
same in the end, with its members and all that is in the store, and every member gets the same
answers in the same order: those that it would get if it acted alone. -/
theorem interleaving_irrelevant (stems : portfolio.StemsDiffer) (inboxes : portfolio.InboxesDiffer)
    {one other : List (Nat × MemberAction)} (own : ∀ entry ∈ one, entry.2.Own)
    (same : ∀ place, sequenceOf place one = sequenceOf place other) :
    (portfolio.runMembers one).2 = (portfolio.runMembers other).2 ∧
      (∀ place, sequenceOf place (portfolio.runMembers one).1 =
        sequenceOf place (portfolio.runMembers other).1) ∧
      ∀ place, let alone := portfolio.runMembers (one.filter fun entry => entry.1 = place)
        sequenceOf place (portfolio.runMembers one).1 = sequenceOf place alone.1 ∧
        (portfolio.runMembers one).2.members[place]? = alone.2.members[place]? := by
  have apart := apart_of_differ stems inboxes
  obtain ⟨last, answers⟩ := runMembers_of_sequences apart own same
  exact ⟨last, answers, runMembers_alone apart own⟩

/-- Two members of one store, each with its own stem and inbox. -/
def neighbours (config : Config) : Portfolio where
  members := #[
    .starting "left" { config with store := { config.store with stem := "a", inbox := "to a" } } 0,
    .starting "right" { config with store := { config.store with stem := "b", inbox := "to b" } } 7]

/-- The left member publishes a unit, and then the right one imports one from its inbox. -/
def oneByOne : List (Nat × MemberAction) :=
  [(0, .peer (.queueUnit ⟨0, true⟩)), (0, .peer .publish), (1, .peer (.pushInbox ["-4 0"])),
    (1, .peer .importInbox)]

/-- The same, where the right member comes in between. -/
def takingTurns : List (Nat × MemberAction) :=
  [(1, .peer (.pushInbox ["-4 0"])), (0, .peer (.queueUnit ⟨0, true⟩)), (1, .peer .importInbox),
    (0, .peer .publish)]

theorem interleaving_irrelevant_neighbours : ∃ config : Config, (neighbours config).StemsDiffer ∧
    (neighbours config).InboxesDiffer ∧ (∀ entry ∈ oneByOne, entry.2.Own) ∧
    (∀ place, sequenceOf place oneByOne = sequenceOf place takingTurns) ∧
    ((neighbours config).runMembers oneByOne).2.store.values.toList = [("a:0", "1 0")] ∧
    ((neighbours config).runMembers oneByOne).2.store.use = ⟨3, 0, 1, 1, 1, 1⟩ ∧
    (neighbours config).runMembers oneByOne ≠ (neighbours config).runMembers takingTurns ∧
    ((neighbours config).runMembers oneByOne).2 = ((neighbours config).runMembers takingTurns).2 ∧
    ∀ place, sequenceOf place ((neighbours config).runMembers oneByOne).1 =
      sequenceOf place ((neighbours config).runMembers takingTurns).1 := by
  have stems : (neighbours {}).StemsDiffer := by decide
  have inboxes : (neighbours {}).InboxesDiffer := by decide
  have own : ∀ entry ∈ oneByOne, entry.2.Own := by
    simp only [oneByOne, List.forall_mem_cons, MemberAction.Own, PeerAction.Own, true_and]
    exact fun _ none => absurd none List.not_mem_nil
  have same : ∀ place, sequenceOf place oneByOne = sequenceOf place takingTurns := by
    intro place
    rcases place with _ | _ | place
    · rfl
    · rfl
    · rfl
  have order : (neighbours {}).runMembers oneByOne ≠ (neighbours {}).runMembers takingTurns := by
    intro equal
    have firsts := congrArg (fun result => result.1.map Prod.fst) equal
    revert firsts
    decide +kernel
  obtain ⟨last, answers, -⟩ := interleaving_irrelevant stems inboxes own same
  exact ⟨{}, stems, inboxes, own, same, by decide +kernel, by decide +kernel, order, last, answers⟩

end Portfolio

end ClauseSharing
