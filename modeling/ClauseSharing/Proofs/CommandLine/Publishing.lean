import ClauseSharing.Proofs.CommandLine.Arguments
import ClauseSharing.Proofs.Publish.Blame
import ClauseSharing.Proofs.Publish.Exact
import ClauseSharing.Proofs.Solver.Knowledge
import ClauseSharing.Proofs.Store.LocalStore
import Mathlib.Data.List.Basic

/-! # What a command line publishes

While the arguments of a publication are taken in, literals that hold for good wait as units,
whether they were given as integers or as records, and the other clauses are stored and their keys
wait (`CommandLine.Prepared`). As long as there are keys for all of them, the solver gives out these
clauses under the keys (`CommandLine.Prepared.found`). So a publication writes its arguments in
their normal form, the clauses of one literal in front of the others, and it is never blamed on a
clause (`CommandLine.publish_normalizes`). -/

namespace ClauseSharing

namespace Peer

variable {κ : Type} {peer : Peer κ} {source : κ → Option Clause}
  (positive : 0 < peer.config.batchWidth)

include positive

theorem flatten_batches :
    (peer.batches source).flatten = peer.config.store.numbered peer.counter.next
      (peer.outbox.units.map Record.encodeUnit ++
        (peer.sharedClauses source).map Record.encode) := by
  rw [batches, List.flatten_append, (cutInto_piecesOf positive _).flatten,
    (cutInto_piecesOf positive _).flatten, unitWrites_append_clauseWrites]

theorem batches_narrow :
    ∀ batch ∈ peer.batches source, batch ≠ [] ∧ batch.length ≤ peer.config.batchWidth := by
  intro batch inside
  have units := cutInto_piecesOf positive peer.unitWrites
  have clauses := cutInto_piecesOf positive (peer.clauseWrites source)
  rcases List.mem_append.mp inside with unit | clause
  · exact ⟨units.nonempty batch unit, units.narrow batch unit⟩
  · exact ⟨clauses.nonempty batch clause, clauses.narrow batch clause⟩

end Peer

namespace CommandLine

open Argument (firstFault?)

/-- The literals of those of the clauses that have only one. -/
def unitsOf (clauses : List Clause) : List Literal :=
  (clauses.filter fun clause => clause.length = 1).flatten

/-- Those of the clauses that have two literals or more. -/
def pluralsOf (clauses : List Clause) : List Clause :=
  clauses.filter fun clause => 2 ≤ clause.length

theorem plural_pluralsOf (clauses : List Clause) :
    ∀ clause ∈ pluralsOf clauses, 2 ≤ clause.length :=
  fun _ inside => of_decide_eq_true (List.mem_filter.mp inside).2

theorem unitsOf_append (front rest : List Clause) :
    unitsOf (front ++ rest) = unitsOf front ++ unitsOf rest := by
  rw [unitsOf, List.filter_append, List.flatten_append]
  rfl

theorem pluralsOf_append (front rest : List Clause) :
    pluralsOf (front ++ rest) = pluralsOf front ++ pluralsOf rest := List.filter_append ..

/-- The records of units are those of the clauses of one literal. -/
theorem map_encodeUnit_unitsOf (clauses : List Clause) :
    (unitsOf clauses).map Record.encodeUnit =
      (clauses.filter fun clause => clause.length = 1).map Record.encode := by
  rw [unitsOf]
  induction clauses with
  | nil => rfl
  | cons clause clauses ih =>
    rw [List.filter_cons]
    split
    · rename_i single
      obtain ⟨literal, rfl⟩ := List.length_eq_one_iff.mp (of_decide_eq_true single)
      rw [List.flatten_cons, List.map_append, List.map_cons, ih]
      rfl
    · exact ih

/-- What has been prepared when units and clauses are to be published from an identifier on: the
units wait in order, the solver holds the clauses and nothing else, and their keys wait in order. -/
structure Prepared (config : Config) (firstId : Nat) (units : List Literal) (clauses : List Clause)
    (preparation : Preparation) : Prop where
  config : preparation.peer.config = config
  counter : preparation.peer.counter = .startingAt firstId
  units : preparation.peer.outbox.units = units
  contents : preparation.solver.learnt.contents = clauses.map some
  keys : preparation.peer.outbox.clauses =
    (List.range clauses.length).map fun index => ⟨index % LearntBase.keyCount⟩

namespace Prepared

variable {config : Config} {firstId : Nat} {units : List Literal} {clauses : List Clause}
  {preparation : Preparation}

theorem fresh (config : Config) (firstId : Nat) :
    Prepared config firstId [] [] (Preparation.fresh config firstId) := ⟨rfl, rfl, rfl, rfl, rfl⟩

variable (prepared : Prepared config firstId units clauses preparation)

include prepared

theorem queueUnit (literal : Literal) : Prepared config firstId (units ++ [literal]) clauses
    { preparation with peer := preparation.peer.queueUnit literal } :=
  ⟨prepared.config, prepared.counter, congrArg (· ++ [literal]) prepared.units, prepared.contents,
    prepared.keys⟩

/-- A clause that is learnt and queued is stored behind the others, and its key waits behind
theirs. -/
theorem queueClause (clause : Clause) :
    let learnt := preparation.solver.learn clause clause.distance
    Prepared config firstId units (clauses ++ [clause])
      { solver := learnt.2, peer := preparation.peer.queueClause learnt.1 } := by
  have slots : preparation.solver.learnt.clauses.size = clauses.length := by
    rw [← LearntBase.length_contents, prepared.contents, List.length_map]
  refine ⟨prepared.config, prepared.counter, prepared.units, ?_, ?_⟩
  · rw [List.map_append, ← prepared.contents]
    exact preparation.solver.learnt.contents_learn clause clause.distance
  · change preparation.peer.outbox.clauses ++ [preparation.solver.learnt.nextKey] = _
    rw [prepared.keys, LearntBase.nextKey, slots, List.length_append, List.length_singleton,
      List.range_succ, List.map_append, List.map_singleton]

theorem takeUnits (literals : List Literal) :
    Prepared config firstId (units ++ literals) clauses (preparation.takeUnits literals) := by
  induction literals generalizing units preparation with
  | nil =>
    rw [List.append_nil]
    exact prepared
  | cons literal literals ih =>
    rw [List.append_cons]
    exact ih (prepared.queueUnit literal)

theorem take (clause : Clause) :
    Prepared config firstId (units ++ unitsOf [clause]) (clauses ++ pluralsOf [clause])
      (preparation.take clause) := by
  match clause with
  | [] =>
    have same : Prepared config firstId (units ++ []) (clauses ++ []) preparation := by
      rwa [List.append_nil, List.append_nil]
    exact same
  | [literal] =>
    have queued := prepared.queueUnit literal
    rw [← List.append_nil clauses] at queued
    exact queued
  | first :: second :: rest =>
    have queued := prepared.queueClause (first :: second :: rest)
    rw [← List.append_nil units] at queued
    exact queued

theorem foldl_take (more : List Clause) :
    Prepared config firstId (units ++ unitsOf more) (clauses ++ pluralsOf more)
      (more.foldl Preparation.take preparation) := by
  induction more generalizing units clauses preparation with
  | nil =>
    have same : Prepared config firstId (units ++ []) (clauses ++ []) preparation := by
      rwa [List.append_nil, List.append_nil]
    exact same
  | cons clause more ih =>
    have rest := ih (prepared.take clause)
    rwa [List.append_assoc, List.append_assoc, ← unitsOf_append, ← pluralsOf_append] at rest

theorem literals?_eq (index : Nat) (inside : index < clauses.length) :
    preparation.solver.literals? ⟨index⟩ = some clauses[index] := by
  rw [Solver.literals?_eq_some_iff]
  change preparation.solver.learnt.contents[index]? = _
  rw [prepared.contents, List.getElem?_map, List.getElem?_eq_getElem inside, Option.map_some]

/-- Under each key that waits there is a clause that was stored, even where the keys have run out
and it is not the one for which the key waits. -/
theorem shareable (plural : ∀ clause ∈ clauses, 2 ≤ clause.length) :
    ∀ key ∈ preparation.peer.outbox.clauses,
      Publish.Shareable preparation.solver.literals? key := by
  intro key inside
  rw [prepared.keys, List.mem_map] at inside
  obtain ⟨index, listed, rfl⟩ := inside
  have stored : index % LearntBase.keyCount < clauses.length :=
    Nat.lt_of_le_of_lt (Nat.mod_le ..) (List.mem_range.mp listed)
  exact ⟨_, prepared.literals?_eq _ stored, plural _ (List.getElem_mem stored)⟩

/-- As long as there are keys for all the clauses, they are given out under the keys that wait. -/
theorem found (left : clauses.length ≤ LearntBase.keyCount) :
    preparation.peer.outbox.clauses.map preparation.solver.literals? = clauses.map some := by
  rw [prepared.keys, List.map_map]
  refine List.ext_getElem (by simp only [List.length_map, List.length_range])
    fun index listed stored => ?_
  rw [List.length_map] at stored
  rw [List.getElem_map, List.getElem_map, List.getElem_range, Function.comp_apply,
    Nat.mod_eq_of_lt (Nat.lt_of_lt_of_le stored left)]
  exact prepared.literals?_eq index stored

theorem sharedClauses_eq (left : clauses.length ≤ LearntBase.keyCount) :
    preparation.peer.sharedClauses preparation.solver.literals? =
      clauses.filter fun clause => clause.length ≤ config.maxLength := by
  rw [Peer.sharedClauses, Publish.shared, filterMap_of_found (prepared.found left), prepared.config]

theorem length_clauses : preparation.peer.outbox.clauses.length = clauses.length := by
  rw [prepared.keys, List.length_map, List.length_range]

theorem next_eq (within : firstId ≤ 4294967295) : preparation.peer.counter.next = firstId := by
  rw [prepared.counter]
  exact Nat.min_eq_left within

theorem isEmpty_eq : preparation.peer.outbox.isEmpty = (units.isEmpty && clauses.isEmpty) := by
  have same : preparation.peer.outbox.clauses.isEmpty = clauses.isEmpty := by
    rw [Bool.eq_iff_iff, List.isEmpty_iff_length_eq_zero, List.isEmpty_iff_length_eq_zero,
      prepared.length_clauses]
  rw [Outbox.isEmpty, prepared.units, same]

/-- Where every write is acknowledged, all that has been prepared is published: the units and then
the clauses that are not too long are written under consecutive identifiers, in batches of the
greatest width at most. -/
theorem publish {ω : Type} [Store ω] {before : Logged LearntKey ω} {connected : ω}
    (plural : ∀ clause ∈ clauses, 2 ≤ clause.length) (left : clauses.length ≤ LearntBase.keyCount)
    {short : List Clause}
    (selected : (clauses.filter fun clause => clause.length ≤ config.maxLength) = short)
    (positive : 0 < config.batchWidth) (room : firstId + (units.length + short.length) ≤ 4294967295)
    (connects : Store.connect before.world = (.ok (), connected))
    (willing : ∀ batches, ∃ last, Store.Acknowledges connected batches last) :
    ∃ (after : Peer LearntKey) (last : Logged LearntKey ω) (batches : List (List Write)),
      preparation.peer.publish preparation.solver.literals? before =
        (.ok {
          units := units.length
          clauses := short.length
          skipped := clauses.length - short.length
          connected := !(units.isEmpty && clauses.isEmpty) }, after, last) ∧
      after.counter.next = firstId + (units.length + short.length) ∧
      last.calls.toList = before.calls.toList ++
        (if units.isEmpty && clauses.isEmpty then []
        else [.connect] ++ batches.map .writeBatch ++ [.release]) ∧
      batches.flatten = config.store.numbered firstId
        (units.map Record.encodeUnit ++ short.map Record.encode) ∧
      ∀ batch ∈ batches, batch ≠ [] ∧ batch.length ≤ config.batchWidth := by
  have next := prepared.next_eq (Nat.le_of_add_right_le room)
  have chosen := (prepared.sharedClauses_eq left).trans selected
  rw [← prepared.isEmpty_eq]
  -- Where nothing waits, the store is not even connected to.
  cases empty : preparation.peer.outbox.isEmpty with
  | true =>
    have nothing := prepared.isEmpty_eq.symm.trans empty
    rw [Bool.and_eq_true, List.isEmpty_iff, List.isEmpty_iff] at nothing
    obtain ⟨rfl, rfl⟩ := nothing
    subst selected
    exact ⟨preparation.peer, before, [], if_pos empty, next, (List.append_nil _).symm, rfl,
      fun _ none => absurd none List.not_mem_nil⟩
  | false =>
    rw [← prepared.config] at positive
    have enough : preparation.peer.outbox.units.length +
        (preparation.peer.sharedClauses preparation.solver.literals?).length ≤
          preparation.peer.counter.remaining := by
      rw [prepared.units, chosen, IdCounter.remaining, IdCounter.limit, next]
      omega
    obtain ⟨written, acknowledged⟩ :=
      willing (preparation.peer.batches preparation.solver.literals?)
    have published := Peer.publish_of_acknowledges empty positive (prepared.shareable plural) enough
      (Logged.connect_of_connect connects) (acknowledged.logged (before.calls.push .connect))
    rw [Peer.fullReport, prepared.units, chosen, prepared.length_clauses] at published
    refine ⟨_, _, preparation.peer.batches preparation.solver.literals?, published, ?_, ?_, ?_, ?_⟩
    · rw [Peer.relieved, IdCounter.next_advance enough, prepared.units, chosen, next]
    · rw [if_neg Bool.false_ne_true, ← List.append_assoc, ← List.append_assoc]
      exact Logged.toList_visit before.calls
        (preparation.peer.batches preparation.solver.literals?) written
    · rw [Peer.flatten_batches positive, prepared.config, prepared.units, chosen, next]
    · rw [← prepared.config]
      exact Peer.batches_narrow positive

end Prepared

/-- Those of the clauses that are published as clauses: they have two literals or more, and not too
many. -/
def shortOf (config : Config) (clauses : List Clause) : List Clause :=
  clauses.filter fun clause => 2 ≤ clause.length ∧ clause.length ≤ config.maxLength

/-- What is to be published of literals and clauses, in order: each of the literals, then the
clauses of one literal, and then those that are published as clauses. -/
def chosen (config : Config) (units : List Literal) (clauses : List Clause) : List Clause :=
  (units.map fun literal => [literal]) ++ (clauses.filter fun clause => clause.length = 1) ++
    shortOf config clauses

section

variable {config : Config} (units : List Literal) (clauses : List Clause)

theorem length_unitsOf :
    (unitsOf clauses).length = (clauses.filter fun clause => clause.length = 1).length := by
  have same := congrArg List.length (map_encodeUnit_unitsOf clauses)
  rwa [List.length_map, List.length_map] at same

theorem filter_pluralsOf :
    ((pluralsOf clauses).filter fun clause => clause.length ≤ config.maxLength) =
      shortOf config clauses := by
  rw [pluralsOf, List.filter_filter, shortOf]
  refine List.filter_congr fun clause _ => ?_
  rw [Bool.decide_and, Bool.and_comm]

/-- Of the clauses of two literals or more, those that are not published are those that are too
long. -/
theorem length_pluralsOf_sub_length_shortOf (bounded : 2 ≤ config.maxLength) :
    (pluralsOf clauses).length - (shortOf config clauses).length =
      (clauses.filter fun clause => config.maxLength < clause.length).length := by
  have long :
      ((pluralsOf clauses).filter fun clause => !decide (clause.length ≤ config.maxLength)) =
        clauses.filter fun clause => config.maxLength < clause.length := by
    rw [pluralsOf, List.filter_filter]
    refine List.filter_congr fun clause _ => ?_
    rw [Bool.eq_iff_iff]
    simp only [Bool.and_eq_true, Bool.not_eq_true', decide_eq_false_iff_not, decide_eq_true_iff]
    omega
  have parted : (pluralsOf clauses).length = _ :=
    List.length_eq_length_filter_add fun clause => clause.length ≤ config.maxLength
  rw [filter_pluralsOf, long] at parted
  omega

theorem length_chosen :
    (chosen config units clauses).length =
      (units ++ unitsOf clauses).length + (shortOf config clauses).length := by
  rw [chosen, List.length_append, List.length_append, List.length_append,
    List.length_map, length_unitsOf]

theorem map_encode_chosen :
    (chosen config units clauses).map Record.encode =
      (units ++ unitsOf clauses).map Record.encodeUnit ++
        (shortOf config clauses).map Record.encode := by
  rw [chosen, List.map_append, List.map_append, List.map_append,
    map_encodeUnit_unitsOf, List.map_map]
  rfl

/-- No clause is to be published just where all are empty. -/
theorem isEmpty_unitsOf_and_isEmpty_pluralsOf :
    ((unitsOf clauses).isEmpty && (pluralsOf clauses).isEmpty) = clauses.all List.isEmpty := by
  induction clauses with
  | nil => rfl
  | cons clause clauses ih =>
    match clause with
    | [] => exact ih
    | [_] => rfl
    | _ :: _ :: _ => exact Bool.and_false _

theorem isEmpty_and_isEmpty :
    ((units ++ unitsOf clauses).isEmpty && (pluralsOf clauses).isEmpty) =
      (units.isEmpty && clauses.all List.isEmpty) := by
  rw [← isEmpty_unitsOf_and_isEmpty_pluralsOf, ← Bool.and_assoc]
  cases units with
  | nil => rfl
  | cons => rfl

end

namespace Invocation

/-- The identifier that a publication starts with. -/
def firstId (invocation : Invocation) : Nat := ((invocation.integers .firstId).head?.getD 0).toNat

end Invocation

/-- The line that tells what has been published. -/
def publishedLine (units clauses skipped : Nat) : String :=
  "c Published " ++ s!"{units} units and {clauses} clauses, skipped {skipped}"

/-- The line that tells of the next identifier. -/
def nextLine (identifier : Nat) : String := s!"c Next id: {identifier}"

/-- What is prepared from literals and clauses. -/
def preparedOf (config : Config) (firstId : Nat) (units : List Literal) (clauses : List Clause) :
    Preparation :=
  clauses.foldl Preparation.take ((Preparation.fresh config firstId).takeUnits units)

theorem prepared_preparedOf (config : Config) (firstId : Nat) (units : List Literal)
    (clauses : List Clause) :
    Prepared config firstId (units ++ unitsOf clauses) (pluralsOf clauses)
      (preparedOf config firstId units clauses) :=
  ((Prepared.fresh config firstId).takeUnits units).foldl_take clauses

section

variable {config : Config} {firstId : Nat} {ints : List Int} {records : List String}

theorem printed_ofArguments_of_read {units : List Literal} {clauses : List Clause}
    (literals : ints.map Literal.ofInt? = units.map some)
    (decoded : records.map Record.decode = clauses.map .ok) :
    printed (Preparation.ofArguments config firstId ints records) =
      (.ok (preparedOf config firstId units clauses), emptyLines clauses) := by
  obtain ⟨readable, read⟩ := firstFault?_of_decoded decoded
  have prints := (Preparation.prints_ofArguments config firstId ints records).printed
  rw [Argument.firstFault?_append, firstFault?_of_literals literals, readable,
    filterMap_of_found literals, read] at prints
  exact prints

variable {ω : Type} [Store ω]

theorem publish_of_printed {preparation : Preparation} {lines : List String} {before last : ω}
    {report : PublishReport} {after : Peer LearntKey}
    (prints : printed (Preparation.ofArguments config firstId ints records) =
      (.ok preparation, lines))
    (done : preparation.peer.publish preparation.solver.literals? before =
      (.ok report, after, last)) :
    publish config firstId ints records before =
      (.ok (), lines ++ [publishedLine report.units report.clauses report.skipped,
        nextLine after.counter.next], last) := by
  rw [publish, prints]
  dsimp only
  rw [done]
  rfl

/-- What can be read is prepared, and then all of it is published, where the store acknowledges
it. -/
theorem publish_of_read {units : List Literal} {clauses : List Clause}
    (literals : ints.map Literal.ofInt? = units.map some)
    (decoded : records.map Record.decode = clauses.map .ok)
    (positive : 0 < config.batchWidth) (bounded : 2 ≤ config.maxLength)
    (left : (pluralsOf clauses).length ≤ LearntBase.keyCount)
    (room : firstId + (chosen config units clauses).length ≤ 4294967295)
    {before : Logged LearntKey ω} {connected : ω}
    (connects : Store.connect before.world = (.ok (), connected))
    (willing : ∀ batches, ∃ last, Store.Acknowledges connected batches last) :
    ∃ (last : Logged LearntKey ω) (batches : List (List Write)),
      publish config firstId ints records before = (.ok (), emptyLines clauses ++
          [publishedLine (units.length + (clauses.filter fun clause => clause.length = 1).length)
            (shortOf config clauses).length
            (clauses.filter fun clause => config.maxLength < clause.length).length,
          nextLine (firstId + (chosen config units clauses).length)], last) ∧
      last.calls.toList = before.calls.toList ++
        (if units.isEmpty && clauses.all List.isEmpty then []
        else [.connect] ++ batches.map .writeBatch ++ [.release]) ∧
      batches.flatten = config.store.numbered firstId
        ((chosen config units clauses).map Record.encode) ∧
      ∀ batch ∈ batches, batch ≠ [] ∧ batch.length ≤ config.batchWidth := by
  rw [length_chosen] at room ⊢
  obtain ⟨after, last, batches, done, next, calls, whole, narrow⟩ :=
    (prepared_preparedOf config firstId units clauses).publish (plural_pluralsOf clauses) left
      (filter_pluralsOf clauses) positive room connects willing
  have published := publish_of_printed (printed_ofArguments_of_read literals decoded) done
  rw [length_pluralsOf_sub_length_shortOf clauses bounded, next, List.length_append,
    length_unitsOf] at published
  rw [isEmpty_and_isEmpty] at calls
  rw [← map_encode_chosen] at whole
  rw [List.length_append, length_unitsOf]
  exact ⟨last, batches, published, calls, whole, narrow⟩

theorem blameless_of_printed {preparation : Preparation} {lines : List String} {world : ω}
    (prints : printed (Preparation.ofArguments config firstId ints records) =
      (.ok preparation, lines))
    (blameless : Blameless (preparation.peer.publish preparation.solver.literals? world).1) :
    Blameless (publish config firstId ints records world).1 := by
  rw [publish, prints]
  dsimp only
  generalize preparation.peer.publish _ world = answer at blameless ⊢
  obtain ⟨outcome, after, next⟩ := answer
  cases outcome with
  | error fault => exact blameless.error
  | ok report => exact .ok ()

/-- No publication is blamed on a clause, since none is queued that could be blamed. -/
theorem publish_blameless (config : Config) (firstId : Nat) (ints : List Int)
    (records : List String) (world : ω) :
    Blameless (publish config firstId ints records world).1 := by
  have prints := (Preparation.prints_ofArguments config firstId ints records).printed
  cases refused : firstFault? (ints.map .unit ++ records.map .record) with
  | some reason =>
    rw [refused] at prints
    rw [publish, prints]
    exact .record reason
  | none =>
    rw [refused] at prints
    have prepared :=
      prepared_preparedOf config firstId (ints.filterMap Literal.ofInt?) (clausesOf records)
    exact blameless_of_printed prints
      (Peer.publish_blameless (prepared.shareable (plural_pluralsOf _)) world)

end

/-- **A publication writes its arguments in their normal form.** Let the words of a publication be
admitted, where the wire integers are those of literals, the records can be read as clauses, and
there are keys enough for those of two literals or more and identifiers enough from the first one
on. If the store can be connected to and acknowledges every write, the status is zero, and under
consecutive identifiers are written, in the spelling of the encoder, the literals, then the clauses
of one literal, and then those of two literals or more that are not too long, in batches of the
greatest width at most. Those that are too long are counted as skipped, and the empty ones are not.
And whatever the arguments are and the store does, no publication is blamed on a queued clause. -/
theorem publish_normalizes {words : List String} {invocation : Invocation} {config : Config}
    {lines : List String} (admitted : Admitted words invocation config lines)
    (publishes : invocation.name = .publish) :
    (∀ (units : List Literal) (clauses : List Clause),
      (invocation.integers .unit).map Literal.ofInt? = units.map some →
      (invocation.texts .clause).map Record.decode = clauses.map .ok →
      (pluralsOf clauses).length ≤ LearntBase.keyCount →
      invocation.firstId + (chosen config units clauses).length ≤ 4294967295 →
      ∀ (ω : Type) [Store ω] (before : Logged LearntKey ω) (connected : ω),
      Store.connect before.world = (.ok (), connected) →
      (∀ batches, ∃ last, Store.Acknowledges connected batches last) →
      ∃ (last : Logged LearntKey ω) (batches : List (List Write)),
        run words before = (⟨0, lines ++ [storeLine config] ++ (emptyLines clauses ++
          [publishedLine (units.length + (clauses.filter fun clause => clause.length = 1).length)
            (shortOf config clauses).length
            (clauses.filter fun clause => config.maxLength < clause.length).length,
          nextLine (invocation.firstId + (chosen config units clauses).length)])⟩, last) ∧
        last.calls.toList = before.calls.toList ++
          (if units.isEmpty && clauses.all List.isEmpty then []
          else [.connect] ++ batches.map .writeBatch ++ [.release]) ∧
        batches.flatten = config.store.numbered invocation.firstId
          ((chosen config units clauses).map Record.encode) ∧
        ∀ batch ∈ batches, batch ≠ [] ∧ batch.length ≤ config.batchWidth) ∧
    ∀ (ω : Type) [Store ω] (world : ω),
      (runCommand config invocation world).1 ≠ .error (.publishing .shortClause) ∧
      (runCommand config invocation world).1 ≠ .error (.publishing .removedClause) := by
  refine ⟨fun units clauses literals decoded left room ω _ before connected connects willing => ?_,
    fun ω _ world => ?_⟩
  · obtain ⟨positive, bounded⟩ := admitted.publishing_bounds
    obtain ⟨last, batches, done, calls, whole, narrow⟩ :=
      publish_of_read literals decoded positive bounded left room connects willing
    have commanded : runCommand config invocation before = publish config invocation.firstId
        (invocation.integers .unit) (invocation.texts .clause) before := by
      rw [runCommand, publishes]
      rfl
    exact ⟨last, batches, admitted.run_of_done (commanded.trans done), calls, whole, narrow⟩
  · rw [runCommand, publishes]
    obtain ⟨plural, live⟩ := publish_blameless config invocation.firstId (invocation.integers .unit)
      (invocation.texts .clause) world
    exact ⟨plural, live⟩

/-- The words of a publication of a unit and four records, of which one has too many literals. -/
def mixedWords : List String :=
  ["--max-clause-length", "2", "publish", "--first-id", "7", "-c", "+1 02 0",
    "-c", "3 0", "-c", "0", "-u", "-5", "-c", "1 2 3 0"]

/-- What these words make up. -/
def mixed : Invocation where
  outer := { given := [(.maxLength, .text "2")] }
  name := .publish
  inner := { given := [(.firstId, .integer 7), (.clause, .text "+1 02 0"), (.clause, .text "3 0"),
    (.clause, .text "0"), (.unit, .integer (-5)), (.clause, .text "1 2 3 0")] }

theorem publish_normalizes_mixed :
    ∃ (last : Logged LearntKey LocalStore) (batches : List (List Write)),
      run mixedWords ({ world := {} } : Logged LearntKey LocalStore) =
        (⟨0, ["c max_clause_length set to: 2", "c Store at redis://127.0.0.1:6379/0",
          "c Skipped the empty clause", "c Published 2 units and 1 clauses, skipped 1",
          "c Next id: 10"]⟩, last) ∧
      last.calls.toList = [.connect] ++ batches.map .writeBatch ++ [.release] ∧
      batches.flatten =
        [("from_minisat:7", "-5 0"), ("from_minisat:8", "3 0"), ("from_minisat:9", "1 2 0")] := by
  have admitted : Admitted mixedWords mixed _ _ := ⟨rfl, rfl, rfl⟩
  let connected : LocalStore := { use := { opened := 1, held := 1 } }
  have faultless : connected.Faultless := ⟨rfl, rfl, rfl⟩
  have willing (batches : List (List Write)) :
      ∃ last, Store.Acknowledges connected batches last := by
    obtain ⟨last, acknowledged, _⟩ := LocalStore.acknowledges faultless batches
    exact ⟨last, acknowledged⟩
  obtain ⟨publishes, -⟩ := publish_normalizes admitted rfl
  obtain ⟨last, batches, done, calls, whole, -⟩ := publishes [⟨4, false⟩]
    [[⟨0, true⟩, ⟨1, true⟩], [⟨2, true⟩], [], [⟨0, true⟩, ⟨1, true⟩, ⟨2, true⟩]] rfl
    (by decide +kernel) (by decide) (by decide) LocalStore { world := {} } connected rfl willing
  refine ⟨last, batches, done.trans ?_, calls, whole.trans ?_⟩
  · rfl
  · rfl

end CommandLine

end ClauseSharing
