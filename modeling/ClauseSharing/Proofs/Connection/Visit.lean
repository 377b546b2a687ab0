import ClauseSharing.Proofs.Connection.Transcript
import ClauseSharing.Proofs.Import.Frame
import ClauseSharing.Proofs.Publish.Frame
import ClauseSharing.Proofs.Store.LocalStore

/-! # One connection, released on every path

Whatever the store answers, a peer that is asked to do something connects at most once, gives the
commands of the request up to the first that fails, and releases the connection exactly once; what
an import does to the host comes after that (`Request.perform_visit`). -/

namespace ClauseSharing

variable {κ ω : Type}

/-- Whether no call failed but the last, if any did. -/
def Line.Unbroken (lines : List (Line κ)) : Prop := ∀ line ∈ lines.dropLast, ¬line.Failed

namespace Request

/-- The commands that a request may give over its connection. An import asks for the length of the
inbox, and pops just where that is answered and is not zero. -/
inductive Commands (inbox : String) : Request κ → List (Line κ) → Prop where
  | publish {source : κ → Option Clause} {lines : List (Line κ)} :
      (∀ line ∈ lines, ∃ writes, line.call = .writeBatch writes) →
      Commands inbox (.publish source) lines
  | unanswered {reason : StoreError} :
      Commands inbox .importInbox [⟨.listLength inbox, .failed (.store reason)⟩]
  | nothing : Commands inbox .importInbox [⟨.listLength inbox, .number 0⟩]
  | popped {pending : Nat} {answer : Answer} : pending ≠ 0 →
      Commands inbox .importInbox
        [⟨.listLength inbox, .number pending⟩, ⟨.popBatch inbox pending, answer⟩]
  | inboxLength {answer : Answer} : Commands inbox .inboxLength [⟨.listLength inbox, answer⟩]
  | pushInbox {records : List String} {answer : Answer} :
      Commands inbox (.pushInbox records) [⟨.push inbox records, answer⟩]
  | flushStore {answer : Answer} : Commands inbox .flushStore [⟨.flush, answer⟩]

/-- The calls that a request comes to: none, or a connection that is refused, or one that is opened,
the commands up to the first that fails, its release, and, in an import, changes to the host. -/
inductive Visit (inbox : String) (request : Request κ) : List (Line κ) → Prop where
  | none : Visit inbox request []
  | refused {reason : StoreError} : Visit inbox request [⟨.connect, .failed (.store reason)⟩]
  | served {commands changes : List (Line κ)} : Commands inbox request commands →
      Line.Unbroken commands → (∀ line ∈ changes, line.ChangesHost) →
      (changes ≠ [] → request = .importInbox) →
      Visit inbox request (⟨.connect, .done⟩ :: commands ++ ⟨.release, .done⟩ :: changes)

theorem Commands.unbroken {inbox : String} {request : Request κ} {lines : List (Line κ)}
    (commands : Commands inbox request lines) (other : ∀ source, request ≠ .publish source) :
    Line.Unbroken lines := by
  intro line inside
  cases commands with
  | publish _ => exact absurd rfl (other _)
  | unanswered | nothing | inboxLength | pushInbox | flushStore =>
    exact absurd inside List.not_mem_nil
  | popped _ =>
    rw [List.mem_singleton.mp inside]
    rintro ⟨fault, failed⟩
    cases failed

theorem Visit.plain {inbox : String} {request : Request κ} {commands : List (Line κ)}
    (given : Commands inbox request commands) (unbroken : Line.Unbroken commands) :
    Visit inbox request (⟨.connect, .done⟩ :: commands ++ [⟨.release, .done⟩]) :=
  .served given unbroken (fun _ none => absurd none List.not_mem_nil) (fun some => absurd rfl some)

end Request

namespace Transcript

variable {α : Type}

theorem lines_of_ask {call : Call κ} {tell : α → Answer} {command : ω → α × ω}
    {before after : Transcript κ ω} {answer : α}
    (asked : ask call tell command before = (answer, after)) :
    after.lines = before.lines ++ [⟨call, tell answer⟩] := by
  have answered : (ask call tell command before).1 = answer := congrArg Prod.fst asked
  have reached : (ask call tell command before).2 = after := congrArg Prod.snd asked
  rw [← answered, ← reached]
  rfl

/-- Whether a transcript has grown by lines of a kind alone. -/
def GrownBy (kind : Line κ → Prop) (before after : Transcript κ ω) : Prop :=
  ∃ lines, after.lines = before.lines ++ lines ∧ ∀ line ∈ lines, kind line

namespace GrownBy

variable {kind : Line κ → Prop} {before after next : Transcript κ ω}

theorem refl (kind : Line κ → Prop) (transcript : Transcript κ ω) :
    GrownBy kind transcript transcript :=
  ⟨[], (List.append_nil _).symm, fun _ none => absurd none List.not_mem_nil⟩

theorem snoc (grown : GrownBy kind before after) {line : Line κ}
    (more : next.lines = after.lines ++ [line]) (isKind : kind line) :
    GrownBy kind before next := by
  obtain ⟨lines, same, kinds⟩ := grown
  refine ⟨lines ++ [line], by rw [more, same, List.append_assoc], ?_⟩
  intro other inside
  rcases List.mem_append.mp inside with earlier | last
  · exact kinds other earlier
  · rwa [List.mem_singleton.mp last]

end GrownBy

/-- Every change to the host is listed as one. -/
theorem keeps_changesHost [Host ω κ] (before : Transcript κ ω) :
    Host.Keeps (GrownBy Line.ChangesHost before) where
  assign _ _ grown := grown.snoc rfl trivial
  setUnsatisfiable _ grown := grown.snoc rfl trivial
  allocate _ _ _ grown := grown.snoc rfl trivial
  markTier _ _ _ grown := grown.snoc rfl trivial
  setTouched _ _ _ grown := grown.snoc rfl trivial
  bumpClause _ _ grown := grown.snoc rfl trivial
  attach _ _ grown := grown.snoc rfl trivial
  decayClauses _ grown := grown.snoc rfl trivial
  noteCopy _ _ grown := grown.snoc rfl trivial
  recordDistance _ _ grown := grown.snoc rfl trivial
  decayAtoms _ grown := grown.snoc rfl trivial

variable [Store ω]

theorem connect_lines {before after : Transcript κ ω} {outcome : Except StoreError Unit}
    (done : Store.connect before = (outcome, after)) :
    after.lines = before.lines ++ [⟨.connect, settled outcome⟩] :=
  lines_of_ask done

theorem writeBatch_lines {before after : Transcript κ ω} {writes : List Write}
    {outcome : Except StoreError Unit} (done : Store.writeBatch writes before = (outcome, after)) :
    after.lines = before.lines ++ [⟨.writeBatch writes, settled outcome⟩] :=
  lines_of_ask done

theorem listLength_lines {before after : Transcript κ ω} {name : String}
    {outcome : Except StoreError Nat} (done : Store.listLength name before = (outcome, after)) :
    after.lines = before.lines ++ [⟨.listLength name, .ofExcept .store .number outcome⟩] :=
  lines_of_ask done

theorem popBatch_lines {before after : Transcript κ ω} {name : String} {count : Nat}
    {outcome : Except StoreError (List String)}
    (done : Store.popBatch name count before = (outcome, after)) :
    after.lines = before.lines ++ [⟨.popBatch name count, .ofExcept .store .records outcome⟩] :=
  lines_of_ask done

theorem push_lines {before after : Transcript κ ω} {name : String} {records : List String}
    {outcome : Except StoreError Nat} (done : Store.push name records before = (outcome, after)) :
    after.lines = before.lines ++ [⟨.push name records, .ofExcept .store .number outcome⟩] :=
  lines_of_ask done

theorem flush_lines {before after : Transcript κ ω} {outcome : Except StoreError Unit}
    (done : Store.flush before = (outcome, after)) :
    after.lines = before.lines ++ [⟨.flush, settled outcome⟩] :=
  lines_of_ask done

theorem overConnection_lines
    (command : Transcript κ ω → Except StoreError α × Transcript κ ω) (before : Transcript κ ω) :
    let result := Store.overConnection command before
    (∃ reason, result.1 = .error reason ∧
      result.2.lines = before.lines ++ [⟨.connect, .failed (.store reason)⟩]) ∨
    ∃ opened : Transcript κ ω, opened.lines = before.lines ++ [⟨.connect, .done⟩] ∧
      result.2.lines = (command opened).2.lines ++ [⟨.release, .done⟩] := by
  rcases Store.overConnection_cases command before with
    ⟨reason, next, refused, same⟩ | ⟨opened, connected, same⟩
  · rw [same]
    exact .inl ⟨reason, rfl, connect_lines refused⟩
  · rw [same]
    exact .inr ⟨opened, connect_lines connected, rfl⟩

theorem fetchInbox_lines (inbox : String) (opened : Transcript κ ω) :
    ∃ commands, (Peer.fetchInbox inbox opened).2.lines = opened.lines ++ commands ∧
      Request.Commands inbox .importInbox commands := by
  cases asking : Store.listLength inbox opened with
  | mk outcome asked =>
    have lines := listLength_lines asking
    rw [Peer.fetchInbox, asking]
    cases outcome with
    | error reason => exact ⟨_, lines, .unanswered⟩
    | ok length =>
      cases length with
      | zero => exact ⟨_, lines, .nothing⟩
      | succ pending =>
        cases popping : Store.popBatch inbox (pending + 1) asked with
        | mk outcome popped =>
          have more := popBatch_lines popping
          rw [lines, List.append_assoc] at more
          refine ⟨[⟨.listLength inbox, .number (pending + 1)⟩,
            ⟨.popBatch inbox (pending + 1), .ofExcept .store .records outcome⟩], ?_,
            .popped (Nat.succ_ne_zero pending)⟩
          simp only [popping]
          cases outcome with
          | error reason => exact more
          | ok records => exact more

theorem popInbox_lines (inbox : String) (before : Transcript κ ω) :
    let result := Peer.popInbox inbox before
    (∃ reason, result.1 = .error reason ∧
      result.2.lines = before.lines ++ [⟨.connect, .failed (.store reason)⟩]) ∨
    ∃ commands, Request.Commands inbox .importInbox commands ∧
      result.2.lines = before.lines ++ (⟨.connect, .done⟩ :: commands ++ [⟨.release, .done⟩]) := by
  intro result
  have left : result.2 = (Store.overConnection (Peer.fetchInbox inbox) before).2 :=
    Peer.popInbox_snd inbox before
  rcases overConnection_lines (Peer.fetchInbox inbox) before with
    ⟨reason, failed, refused⟩ | ⟨opened, connected, released⟩
  · rw [left]
    exact .inl ⟨reason, Peer.popInbox_of_error failed, refused⟩
  · obtain ⟨commands, asked, given⟩ := fetchInbox_lines inbox opened
    refine .inr ⟨commands, given, ?_⟩
    rw [left, released, asked, connected]
    simp only [List.append_assoc, List.cons_append, List.nil_append]

/-- Whether a line tells of a batch that was acknowledged. -/
def Acknowledges (line : Line κ) : Prop := ∃ writes, line = ⟨.writeBatch writes, .done⟩

/-- Batches are listed as they are written, and a refused one comes behind acknowledged ones. -/
theorem sends (opened : Transcript κ ω) :
    Publish.Sends (fun _ => True) (GrownBy Acknowledges opened) fun after =>
      ∃ middle : Transcript κ ω, GrownBy Acknowledges opened middle ∧
        ∃ writes answer, after.lines = middle.lines ++ [⟨.writeBatch writes, answer⟩] where
  acknowledged _ grown written := grown.snoc (writeBatch_lines written) ⟨_, rfl⟩
  refused _ grown written := ⟨_, grown, _, _, writeBatch_lines written⟩

theorem publishQueued_lines (peer : Peer κ) (source : κ → Option Clause) (inbox : String)
    (opened : Transcript κ ω) :
    ∃ commands, (peer.publishQueued source opened).2.2.lines = opened.lines ++ commands ∧
      Request.Commands inbox (.publish source) commands ∧ Line.Unbroken commands := by
  obtain ⟨-, sent⟩ := peer.publishQueued_sent source (sends opened)
    (fun _ _ _ => trivial) (fun _ _ _ _ => trivial) (.refl _ opened)
  have unfailed {lines : List (Line κ)} (all : ∀ line ∈ lines, Acknowledges line) :
      ∀ line ∈ lines, ¬line.Failed := by
    rintro line inside ⟨fault, failed⟩
    obtain ⟨writes, rfl⟩ := all line inside
    cases failed
  have writing {lines : List (Line κ)} (all : ∀ line ∈ lines, Acknowledges line) :
      ∀ line ∈ lines, ∃ writes, line.call = .writeBatch writes := by
    intro line inside
    obtain ⟨writes, rfl⟩ := all line inside
    exact ⟨writes, rfl⟩
  rcases sent with ⟨lines, grown, all⟩ | ⟨-, middle, ⟨lines, grown, all⟩, writes, answer, refused⟩
  · exact ⟨lines, grown, .publish (writing all),
      fun line inside => unfailed all line (List.dropLast_subset _ inside)⟩
  · refine ⟨lines ++ [⟨.writeBatch writes, answer⟩], ?_, .publish ?_, ?_⟩
    · rw [refused, grown, List.append_assoc]
    · intro line inside
      rcases List.mem_append.mp inside with earlier | last
      · exact writing all line earlier
      · rw [List.mem_singleton.mp last]
        exact ⟨writes, rfl⟩
    · rw [Line.Unbroken, List.dropLast_concat]
      exact unfailed all

end Transcript

namespace Request

open Transcript (GrownBy)

variable [Store ω]

theorem visit_of_overConnection {α : Type} {inbox : String} {request : Request κ}
    {command : Transcript κ ω → Except StoreError α × Transcript κ ω} (before : Transcript κ ω)
    (given : ∀ opened, ∃ line, (command opened).2.lines = opened.lines ++ [line] ∧
      Commands inbox request [line]) :
    ∃ lines, (Peer.raised (Store.overConnection command before)).2.lines = before.lines ++ lines ∧
      Visit inbox request lines ∧ lines ≠ [] := by
  rw [Peer.raised_snd]
  rcases Transcript.overConnection_lines command before with
    ⟨reason, -, refused⟩ | ⟨opened, connected, released⟩
  · exact ⟨_, refused, .refused, List.cons_ne_nil _ _⟩
  · obtain ⟨line, asked, isCommand⟩ := given opened
    have unbroken : Line.Unbroken [line] := fun _ none => absurd none List.not_mem_nil
    refine ⟨_, ?_, .plain isCommand unbroken, List.cons_ne_nil _ _⟩
    rw [released, asked, connected]
    simp only [List.append_assoc, List.cons_append, List.nil_append]

theorem visit_publish (peer : Peer κ) (source : κ → Option Clause) (inbox : String)
    (before : Transcript κ ω) :
    ∃ lines, (peer.publish source before).2.2.lines = before.lines ++ lines ∧
      Visit inbox (.publish source) lines ∧ (lines = [] ↔ peer.outbox.isEmpty = true) := by
  rw [Peer.publish]
  by_cases empty : peer.outbox.isEmpty = true
  · rw [if_pos empty]
    exact ⟨[], (List.append_nil _).symm, .none, iff_of_true rfl empty⟩
  · rw [if_neg empty]
    cases connecting : Store.connect before with
    | mk outcome opened =>
      have connected := Transcript.connect_lines connecting
      cases outcome with
      | error reason =>
        exact ⟨_, connected, .refused, iff_of_false (List.cons_ne_nil _ _) empty⟩
      | ok _ =>
        obtain ⟨commands, sent, given, unbroken⟩ :=
          Transcript.publishQueued_lines peer source inbox opened
        refine ⟨_, ?_, .plain given unbroken, iff_of_false (List.cons_ne_nil _ _) empty⟩
        change (peer.publishQueued source opened).2.2.lines ++ [⟨.release, .done⟩] = _
        rw [sent, connected]
        simp only [List.append_assoc, List.cons_append, List.nil_append]
        rfl

variable [Host ω κ]

theorem visit_importInbox (peer : Peer κ) (before : Transcript κ ω) :
    ∃ lines, (peer.importInbox before).2.2.lines = before.lines ++ lines ∧
      Visit peer.config.store.inbox (.importInbox : Request κ) lines ∧
      (lines = [] ↔ Host.decisionLevel before.world ≠ 0) := by
  by_cases level : Host.decisionLevel before = 0
  · have served : ¬Host.decisionLevel before.world ≠ 0 := fun decided => decided level
    have lines := Transcript.popInbox_lines peer.config.store.inbox before
    cases popping : Peer.popInbox peer.config.store.inbox before with
    | mk outcome popped =>
      rw [popping] at lines
      rcases lines with ⟨reason, failed, refused⟩ | ⟨commands, given, released⟩
      · cases failed
        rw [peer.importInbox_of_unpopped level popping]
        exact ⟨_, refused, .refused, iff_of_false (List.cons_ne_nil _ _) served⟩
      · have unbroken := given.unbroken nofun
        cases outcome with
        | error reason =>
          rw [peer.importInbox_of_unpopped level popping]
          exact ⟨_, released, .plain given unbroken, iff_of_false (List.cons_ne_nil _ _) served⟩
        | ok records =>
          obtain ⟨changes, grown, all⟩ := peer.integrateAll_keeps
            (Transcript.keeps_changesHost popped) records (.refl _ popped)
          rw [peer.importInbox_of_popped level popping]
          refine ⟨_, ?_, .served given unbroken all (fun _ => rfl),
            iff_of_false (List.cons_ne_nil _ _) served⟩
          rw [grown, released]
          simp only [List.append_assoc, List.cons_append, List.nil_append]
  · rw [peer.importInbox_of_decided level]
    exact ⟨[], (List.append_nil _).symm, .none, iff_of_true rfl level⟩

/-- **One connection, released on every path.** Whatever the store answers, what a peer is asked to
do is a visit to the store. It makes no call at all just if nothing waits to be published, or if
an import finds the host above level zero. -/
theorem perform_visit (request : Request κ) (peer : Peer κ) (before : Transcript κ ω) :
    ∃ lines, (request.perform peer before).2.2.lines = before.lines ++ lines ∧
      request.Visit peer.config.store.inbox lines ∧
      (lines = [] ↔
        (∃ source, request = .publish source) ∧ peer.outbox.units = [] ∧ peer.outbox.clauses = [] ∨
        request = .importInbox ∧ Host.decisionLevel before.world ≠ 0) := by
  cases request with
  | publish source =>
    obtain ⟨lines, grown, visit, none⟩ := visit_publish peer source peer.config.store.inbox before
    refine ⟨lines, grown, visit, none.trans ?_⟩
    simp [Outbox.isEmpty]
  | importInbox =>
    obtain ⟨lines, grown, visit, none⟩ := visit_importInbox peer before
    refine ⟨lines, grown, visit, none.trans ?_⟩
    simp
  | inboxLength =>
    obtain ⟨lines, grown, visit, some⟩ := visit_of_overConnection before
      fun opened => ⟨_, Transcript.listLength_lines (Prod.eta _).symm, .inboxLength⟩
    exact ⟨lines, grown, visit, iff_of_false some (by simp)⟩
  | pushInbox records =>
    obtain ⟨lines, grown, visit, some⟩ := visit_of_overConnection before
      fun opened => ⟨_, Transcript.push_lines (Prod.eta _).symm, .pushInbox⟩
    exact ⟨lines, grown, visit, iff_of_false some (by simp)⟩
  | flushStore =>
    obtain ⟨lines, grown, visit, some⟩ := visit_of_overConnection before
      fun opened => ⟨_, Transcript.flush_lines (Prod.eta _).symm, .flushStore⟩
    exact ⟨lines, grown, visit, iff_of_false some (by simp)⟩

end Request

end ClauseSharing
