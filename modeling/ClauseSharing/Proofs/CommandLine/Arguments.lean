import ClauseSharing.Proofs.CommandLine.Printing

/-! # Arguments are read before anything is done

The wire integers and the records that a command is given are read in order, and the first that
cannot be read ends the command before it does anything (`CommandLine.runCommand_of_fault`). Each of
the functions that read them is told by that first fault alone (`CommandLine.checkRecords_eq`,
`CommandLine.readLiterals_eq`, `CommandLine.Preparation.prints_ofArguments`). -/

namespace ClauseSharing.CommandLine

/-- What a command reads before it does anything. -/
inductive Argument where
  /-- The wire integer of a literal. -/
  | unit (int : Int)
  /-- The record of a clause. -/
  | record (text : String)

namespace Argument

/-- Why an argument is refused, if it is. -/
def fault? : Argument → Option Record.ReadError
  | unit int => if int = 0 ∨ 4294967296 < int.natAbs then some (.notLiteral int) else none
  | record text =>
    match Record.decode text with
    | .error reason => some reason
    | .ok _ => none

theorem fault?_record_of_decode {text : String} {clause : Clause}
    (read : Record.decode text = .ok clause) :
    (record text).fault? = none := by
  rw [fault?, read]

theorem fault?_record_of_error {text : String} {reason : Record.ReadError}
    (refused : Record.decode text = .error reason) : (record text).fault? = some reason := by
  rw [fault?, refused]

/-- The integers that are refused are those that write no literal. -/
theorem fault?_unit (int : Int) :
    (unit int).fault? = (Literal.ofInt? int).elim (some (.notLiteral int)) fun _ => none := by
  rw [fault?, Literal.ofInt?, Literal.maxMagnitude]
  by_cases refused : int = 0 ∨ 4294967296 < int.natAbs
  · rw [if_pos refused, if_neg (by omega)]
    rfl
  · rw [if_neg refused, if_pos (by omega)]
    rfl

/-- The fault of the first of these arguments that is refused. -/
def firstFault? (arguments : List Argument) : Option Record.ReadError := arguments.findSome? fault?

theorem firstFault?_append (front rest : List Argument) :
    firstFault? (front ++ rest) = (firstFault? front).or (firstFault? rest) :=
  List.findSome?_append

theorem firstFault?_cons_of_none {argument : Argument} (accepted : argument.fault? = none)
    (arguments : List Argument) : firstFault? (argument :: arguments) = firstFault? arguments := by
  rw [firstFault?, List.findSome?_cons, accepted]
  rfl

theorem firstFault?_cons_of_some {argument : Argument} {reason : Record.ReadError}
    (refused : argument.fault? = some reason) (arguments : List Argument) :
    firstFault? (argument :: arguments) = some reason := by
  rw [firstFault?, List.findSome?_cons, refused]

/-- What reading arguments comes to, where a value comes of it if none is refused. -/
def settle {α : Type} (refused : Option Record.ReadError) (value : α) : Except Fault α :=
  refused.elim (.ok value) fun reason => .error (.record reason)

end Argument

open Argument (firstFault? settle)

/-- The clauses of records, up to the first that cannot be read. -/
def clausesOf : List String → List Clause
  | [] => []
  | record :: records =>
    match Record.decode record with
    | .error _ => []
    | .ok clause => clause :: clausesOf records

theorem clausesOf_cons {record : String} {clause : Clause}
    (read : Record.decode record = .ok clause) (records : List String) :
    clausesOf (record :: records) = clause :: clausesOf records := by
  rw [clausesOf, read]

theorem checkRecords_eq (records : List String) :
    checkRecords records = settle (firstFault? (records.map .record)) () := by
  induction records with
  | nil => rfl
  | cons record records ih =>
    rw [checkRecords, List.map_cons]
    cases read : Record.decode record with
    | error reason =>
      rw [Argument.firstFault?_cons_of_some (Argument.fault?_record_of_error read)]
      rfl
    | ok clause =>
      rw [Argument.firstFault?_cons_of_none (Argument.fault?_record_of_decode read)]
      exact ih

theorem readLiterals_eq (ints : List Int) :
    readLiterals ints = settle (firstFault? (ints.map .unit)) (ints.filterMap Literal.ofInt?) := by
  induction ints with
  | nil => rfl
  | cons int ints ih =>
    have fault := Argument.fault?_unit int
    rw [readLiterals, Record.readLiteral, List.map_cons]
    cases read : Literal.ofInt? int with
    | none =>
      rw [read] at fault
      rw [Argument.firstFault?_cons_of_some fault]
      rfl
    | some literal =>
      rw [read] at fault
      rw [Argument.firstFault?_cons_of_none fault, List.filterMap_cons_some read]
      dsimp only
      rw [ih]
      cases firstFault? (ints.map .unit) <;> rfl

section

variable {α β : Type} {find : α → Option β} {given : List α} {values : List β}
  (found : given.map find = values.map some)

include found

/-- Where each of them is found, what is found are the values. -/
theorem filterMap_of_found : given.filterMap find = values := by
  have told := congrArg (List.filterMap id) found
  rw [List.filterMap_map, List.filterMap_map] at told
  exact told.trans List.filterMap_some

theorem exists_of_found {one : α} (inside : one ∈ given) :
    ∃ value ∈ values, find one = some value := by
  have told : find one ∈ values.map some := found ▸ List.mem_map_of_mem inside
  obtain ⟨value, listed, same⟩ := List.mem_map.mp told
  exact ⟨value, listed, same.symm⟩

end

/-- Integers that write literals are not refused. -/
theorem firstFault?_of_literals {ints : List Int} {literals : List Literal}
    (read : ints.map Literal.ofInt? = literals.map some) : firstFault? (ints.map .unit) = none := by
  rw [firstFault?, List.findSome?_eq_none_iff, List.forall_mem_map]
  intro int inside
  obtain ⟨literal, -, same⟩ := exists_of_found read inside
  rw [Argument.fault?_unit, same]
  rfl

/-- Records that can be read are not refused, and none of their clauses is left out. -/
theorem firstFault?_of_decoded {records : List String} {clauses : List Clause}
    (read : records.map Record.decode = clauses.map .ok) :
    firstFault? (records.map .record) = none ∧ clausesOf records = clauses := by
  induction records generalizing clauses with
  | nil =>
    rw [List.map_eq_nil_iff.mp read.symm]
    exact ⟨rfl, rfl⟩
  | cons record records ih =>
    obtain ⟨clause, others, rfl, decoded, rest⟩ := List.map_eq_cons_iff.mp read.symm
    obtain ⟨accepted, same⟩ := ih rest.symm
    rw [List.map_cons, Argument.firstFault?_cons_of_none
      (Argument.fault?_record_of_decode decoded.symm), clausesOf_cons decoded.symm, same]
    exact ⟨accepted, rfl⟩

/-- A line for each of these clauses that is empty. -/
def emptyLines (clauses : List Clause) : List String :=
  (clauses.filter List.isEmpty).map fun _ => "c Skipped the empty clause"

theorem emptyLines_append (front rest : List Clause) :
    emptyLines (front ++ rest) = emptyLines front ++ emptyLines rest := by
  rw [emptyLines, List.filter_append, List.map_append]
  rfl

namespace Preparation

/-- What is prepared once a clause has been taken in. -/
def take (preparation : Preparation) : Clause → Preparation
  | [] => preparation
  | [literal] => { preparation with peer := preparation.peer.queueUnit literal }
  | clause =>
    let (key, solver) := preparation.solver.learn clause clause.distance
    { solver, peer := preparation.peer.queueClause key }

theorem prints_queue (preparation : Preparation) (clause : Clause) :
    Prints (preparation.queue clause) (.ok (preparation.take clause)) (emptyLines [clause]) := by
  match clause with
  | [] => exact .bind (.say _) (.pure preparation)
  | [literal] => exact .pure _
  | first :: second :: rest => exact .pure _

theorem prints_queueRecords (preparation : Preparation) (records : List String) :
    Prints (preparation.queueRecords records)
      (settle (firstFault? (records.map .record)) ((clausesOf records).foldl take preparation))
      (emptyLines (clausesOf records)) := by
  induction records generalizing preparation with
  | nil => exact .pure preparation
  | cons record records ih =>
    rw [queueRecords, List.map_cons]
    cases read : Record.decode record with
    | error reason =>
      rw [Argument.firstFault?_cons_of_some (Argument.fault?_record_of_error read), clausesOf, read]
      exact .throw _
    | ok clause =>
      rw [Argument.firstFault?_cons_of_none (Argument.fault?_record_of_decode read),
        clausesOf_cons read, List.foldl_cons]
      have printed :
          Prints (preparation.queue clause >>= fun taken => taken.queueRecords records) _ _ :=
        (preparation.prints_queue clause).bind (ih (preparation.take clause))
      rwa [← emptyLines_append] at printed

/-- What is prepared before any argument has been taken in. -/
def fresh (config : Config) (firstId : Nat) : Preparation where
  solver := .starting config
  peer := { config, counter := .startingAt firstId }

/-- What is prepared once literals are queued as units. -/
def takeUnits (preparation : Preparation) (literals : List Literal) : Preparation :=
  { preparation with peer := literals.foldl Peer.queueUnit preparation.peer }

theorem prints_ofArguments (config : Config) (firstId : Nat) (units : List Int)
    (records : List String) :
    Prints (ofArguments config firstId units records)
      (settle (firstFault? (units.map .unit ++ records.map .record))
        ((clausesOf records).foldl take
          ((fresh config firstId).takeUnits (units.filterMap Literal.ofInt?))))
      (if (firstFault? (units.map .unit)).isNone then emptyLines (clausesOf records) else []) := by
  rw [ofArguments, readLiterals_eq, Argument.firstFault?_append]
  cases firstFault? (units.map .unit) with
  | some reason => exact .throw _
  | none => exact prints_queueRecords _ records

end Preparation

namespace Invocation

/-- What the command of an invocation reads before it does anything, in order. -/
def arguments (invocation : Invocation) : List Argument :=
  match invocation.name with
  | .flush | .pending => []
  | .push => invocation.inner.records.map .record
  | .publish => (invocation.integers .unit).map .unit ++ (invocation.texts .clause).map .record
  | .importInbox => (invocation.integers .fact).map .unit

/-- The lines that tell of empty clauses while the arguments are read. -/
def emptyLines (invocation : Invocation) : List String :=
  match invocation.name with
  | .publish =>
    if (firstFault? ((invocation.integers .unit).map .unit)).isNone then
      CommandLine.emptyLines (clausesOf (invocation.texts .clause))
    else []
  | .flush | .pending | .push | .importInbox => []

end Invocation

variable {ω : Type} [Store ω]

/-- **A command that is given something that it cannot read does nothing**, and fails for the first
of its arguments that is refused. -/
theorem runCommand_of_fault {invocation : Invocation} {reason : Record.ReadError}
    (refused : firstFault? invocation.arguments = some reason) (config : Config) (world : ω) :
    runCommand config invocation world =
      (.error (.record reason), invocation.emptyLines, world) := by
  obtain ⟨outer, name, inner⟩ := invocation
  cases name with
  | flush => cases refused
  | pending => cases refused
  | push =>
    change firstFault? (inner.records.map .record) = some reason at refused
    change push config inner.records world = _
    rw [push, checkRecords_eq, refused]
    rfl
  | publish =>
    let invocation : Invocation := ⟨outer, .publish, inner⟩
    let firstId := ((invocation.integers .firstId).head?.getD 0).toNat
    have printed := (Preparation.prints_ofArguments config firstId (invocation.integers .unit)
      (invocation.texts .clause)).printed
    change firstFault? ((invocation.integers .unit).map .unit ++
      (invocation.texts .clause).map .record) = _ at refused
    change publish config firstId (invocation.integers .unit) (invocation.texts .clause) world = _
    rw [refused] at printed
    rw [publish, printed]
    rfl
  | importInbox =>
    let invocation : Invocation := ⟨outer, .importInbox, inner⟩
    change firstFault? ((invocation.integers .fact).map .unit) = _ at refused
    change importInbox config _ (invocation.integers .fact) world = _
    rw [importInbox, readLiterals_eq, refused]
    rfl

end ClauseSharing.CommandLine
