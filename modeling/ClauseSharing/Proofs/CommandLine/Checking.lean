import ClauseSharing.Proofs.CommandLine.Arguments
import ClauseSharing.Proofs.Import.Refusal
import ClauseSharing.Proofs.Publish.Frame
import ClauseSharing.Proofs.Redis.Lists

/-! # Arguments are checked, and what is pushed can be read

No command line puts a record in a list of the server that cannot be read (`CommandLine.every_run`),
so where only command lines have filled a list, an import from it comes to no such record
(`CommandLine.Filled.importInbox_ne`). With what is done about arguments that cannot be read this is
`CommandLine.arguments_checked`. -/

namespace ClauseSharing

namespace Redis.Link.Every

variable {good : String → Prop} {name : String} {link : Link} (every : Every good name link)

include every

theorem overConnection {α : Type} {command : Link → Except StoreError α × Link}
    (kept : ∀ link : Link, Every good name link → Every good name (command link).2) :
    Every good name (Store.overConnection command link).2 := by
  have connected := every.connect
  rcases Store.overConnection_cases command link with
    ⟨_, next, reached, same⟩ | ⟨next, reached, same⟩
  · rw [reached] at connected
    rw [same]
    exact connected
  · rw [reached] at connected
    rw [same]
    exact kept next connected

theorem popInbox (inbox : String) : Every good name (Peer.popInbox inbox link).2 := by
  rw [Peer.popInbox_snd]
  refine every.overConnection fun _ before => ?_
  exact Peer.fetchInbox_keeps (fun _ kept => kept.listLength inbox)
    (fun count _ kept => kept.popBatch inbox count) before

theorem publish {κ : Type} (peer : Peer κ) (source : κ → Option Clause) :
    Every good name (peer.publish source link).2.2 := by
  have keeps : Publish.Keeps (fun _ => True) (Every good name) :=
    ⟨fun _ kept => kept.connect, fun _ kept => kept, fun writes _ _ kept => kept.writeBatch writes⟩
  exact (peer.publish_keeps keeps (fun _ _ _ => trivial) (fun _ _ _ _ => trivial) every).2

end Redis.Link.Every

namespace Peer

/-- What an import leaves of the store is what popping the inbox leaves of it, if the inbox is
popped. -/
theorem store_importInbox {σ : Type} [Store σ] (peer : Peer LearntKey) (world : World σ Solver) :
    (peer.importInbox world).2.2.store = world.store ∨
      (peer.importInbox world).2.2.store = (popInbox peer.config.store.inbox world.store).2 := by
  rcases peer.importInbox_cases world with ⟨_, refused⟩ | ⟨_, popped, pops, failed⟩ |
    ⟨_, popped, _, pops, _, _, _, last, taken, store, _⟩
  · rw [refused]
    exact .inl rfl
  · rw [failed, pops]
    exact .inr rfl
  · rw [taken, pops]
    exact .inr store

end Peer

namespace Redis.Link

/-- What is popped over a connection of its own are the oldest records of the list. -/
theorem overConnection_popBatch {link : Link} (reachable : link.refusal = none)
    (script : link.script = []) (name : String) {count : Nat}
    (accepted : count ≤ Server.greatestCount) :
    (Store.overConnection (Store.popBatch name count) link).1 =
      .ok ((link.server.list name).reverse.take count) := by
  have plain : link.opened.Plain := ⟨script, rfl⟩
  rw [Store.overConnection_of_connect (connect_of_reachable reachable),
    popBatch_of_plain plain name accepted]
  rfl

/-- What an import pops over a link whose replies are the server's was in the list. -/
theorem mem_list_of_popInbox {link : Link} (script : link.script = []) {inbox : String}
    {records : List String} (popped : (Peer.popInbox inbox link).1 = .ok records) :
    ∀ record ∈ records, record ∈ link.server.list inbox := by
  cases refusal : link.refusal with
  | some reason =>
    have refused : Store.connect link = (.error (.connection reason), link) := by
      change link.connect = _
      rw [Link.connect, refusal]
    rw [Peer.popInbox_of_unfetched (.refused refused)] at popped
    cases popped
  | none =>
    have plain : link.opened.Plain := ⟨script, rfl⟩
    rw [Peer.popInbox_of_opened (connect_of_reachable refusal)] at popped
    have told := listLength_modulo plain inbox
    generalize (link.opened.server.list inbox).length % 18446744073709551616 = pending at told
    by_cases waiting : pending = 0
    · subst waiting
      rw [Peer.fetchInbox, told] at popped
      cases popped
      exact fun _ none => absurd none List.not_mem_nil
    · rw [Peer.fetchInbox_of_waiting waiting told] at popped
      cases pops :
        (Store.popBatch inbox pending (link.opened.after link.opened.server [.llen inbox])).1 with
      | error reason =>
        rw [pops] at popped
        cases popped
      | ok fetched =>
        rw [pops] at popped
        have whole : (if fetched.length = pending then .ok fetched
          else .error (.popMismatch pending fetched.length) : Except StoreError (List String)) =
            .ok records := popped
        split at whole
        · cases whole
          exact mem_list_of_popBatch (plain.after _ _) pops
        · cases whole

end Redis.Link

namespace CommandLine

/-- Whether a record can be read. -/
def Readable (record : String) : Prop := ∃ clause, Record.decode record = .ok clause

open Argument (firstFault?)

theorem readable_of_checked {records : List String}
    (checked : firstFault? (records.map .record) = none) :
    ∀ record ∈ records, Readable record := by
  intro record inside
  have accepted := List.findSome?_eq_none_iff.mp checked _ (List.mem_map_of_mem inside)
  cases read : Record.decode record with
  | error reason =>
    rw [Argument.fault?_record_of_error read] at accepted
    cases accepted
  | ok clause => exact ⟨clause, read⟩

section

variable {inbox : String} {link : Redis.Link} (every : link.Every Readable inbox)

include every

theorem every_flush (config : Config) : (flush config link).2.2.Every Readable inbox := by
  have kept : ((barePeer config).flushStore link).2.Every Readable inbox := by
    rw [Peer.flushStore, Peer.raised_snd]
    exact every.overConnection fun _ before => before.flush
  unfold flush
  generalize (barePeer config).flushStore link = answer at kept ⊢
  obtain ⟨outcome, next⟩ := answer
  cases outcome <;> exact kept

theorem every_pending (config : Config) : (pending config link).2.2.Every Readable inbox := by
  have kept : ((barePeer config).inboxLength link).2.Every Readable inbox := by
    rw [Peer.inboxLength, Peer.raised_snd]
    exact every.overConnection fun _ before => before.listLength _
  unfold pending
  generalize (barePeer config).inboxLength link = answer at kept ⊢
  obtain ⟨outcome, next⟩ := answer
  cases outcome <;> exact kept

theorem every_push (config : Config) (records : List String) :
    (push config records link).2.2.Every Readable inbox := by
  unfold push
  rw [checkRecords_eq]
  cases checked : firstFault? (records.map .record) with
  | some reason => exact every
  | none =>
    have kept : ((barePeer config).pushInbox records link).2.Every Readable inbox := by
      rw [Peer.pushInbox, Peer.raised_snd]
      exact every.overConnection fun _ before => before.push fun _ => readable_of_checked checked
    dsimp only [Argument.settle, Option.elim]
    generalize (barePeer config).pushInbox records link = answer at kept ⊢
    obtain ⟨outcome, next⟩ := answer
    cases outcome <;> exact kept

theorem every_publish (config : Config) (firstId : Nat) (units : List Int) (records : List String) :
    (publish config firstId units records link).2.2.Every Readable inbox := by
  unfold publish
  generalize printed (Preparation.ofArguments config firstId units records) = answer
  obtain ⟨outcome, lines⟩ := answer
  cases outcome with
  | error fault => exact every
  | ok preparation =>
    have kept := every.publish preparation.peer preparation.solver.literals?
    dsimp only
    generalize preparation.peer.publish preparation.solver.literals? link = answer at kept ⊢
    obtain ⟨outcome, peer, next⟩ := answer
    cases outcome <;> exact kept

theorem every_importInbox (config : Config) (adaptive : Bool) (facts : List Int) :
    (importInbox config adaptive facts link).2.2.Every Readable inbox := by
  unfold importInbox
  cases readLiterals facts with
  | error fault => exact every
  | ok literals =>
    dsimp only
    generalize withFacts _ literals = solver
    have kept :
        ((barePeer config).importInbox (World.mk link solver)).2.2.store.Every Readable inbox := by
      rcases (barePeer config).store_importInbox (World.mk link solver) with same | same
      · rw [same]
        exact every
      · rw [same]
        exact every.popInbox _
    generalize (barePeer config).importInbox (World.mk link solver) = answer at kept ⊢
    obtain ⟨outcome, peer, next⟩ := answer
    cases outcome <;> exact kept

/-- No command puts a record in a list that cannot be read. -/
theorem every_runCommand (config : Config) (invocation : Invocation) :
    (runCommand config invocation link).2.2.Every Readable inbox := by
  unfold runCommand
  cases invocation.name with
  | flush => exact every_flush every config
  | pending => exact every_pending every config
  | push => exact every_push every config _
  | publish => exact every_publish every config _ _ _
  | importInbox => exact every_importInbox every config _ _

theorem every_run (words : List String) : (run words link).2.Every Readable inbox := by
  rcases snd_run_cases words link with same | ⟨config, invocation, same⟩
  · rw [same]
    exact every
  · rw [same]
    exact every_runCommand every config invocation

end

/-- A list of the server that got its records from command lines: it was empty at first, and since
then command lines have been run, and anything else has been done that adds no record to it. -/
inductive Filled (inbox : String) : Redis.Link → Prop where
  | empty {link : Redis.Link} : link.server.list inbox = [] → Filled inbox link
  | ran {link : Redis.Link} (words : List String) :
    Filled inbox link → Filled inbox (run words link).2
  | changed {link next : Redis.Link} : Filled inbox link →
      next.server.list inbox ⊆ link.server.list inbox → Filled inbox next

namespace Filled

variable {inbox : String} {link : Redis.Link}

theorem readable (filled : Filled inbox link) : link.Every Readable inbox := by
  induction filled with
  | empty none =>
    intro record inside
    rw [none] at inside
    exact absurd inside List.not_mem_nil
  | ran words _ ih => exact every_run ih words
  | changed _ fewer ih => exact fun record inside => ih record (fewer inside)

/-- **An import from a list that command lines have filled comes to no record that cannot be read**,
whatever the peer and the host are. -/
theorem importInbox_ne {κ η : Type} [Host η κ] {peer : Peer κ} {host : η}
    (filled : Filled peer.config.store.inbox link) (script : link.script = [])
    (reason : Record.ReadError) :
    (peer.importInbox (World.mk link host)).1 ≠ .error (.record reason) := by
  intro failed
  by_cases level : Host.decisionLevel (World.mk link host) = 0
  · rcases popping : Peer.popInbox peer.config.store.inbox link with ⟨popped, next⟩
    have beside : Peer.popInbox peer.config.store.inbox (World.mk link host) =
        (popped, ⟨next, host⟩) :=
      World.popInbox_of_store popping
    cases popped with
    | error why =>
      rw [peer.importInbox_of_unpopped level beside] at failed
      cases failed
    | ok records =>
      rw [peer.importInbox_of_popped level beside] at failed
      rcases Peer.integrateAll_error failed with ⟨record, inside, why, refused, -⟩ | none
      · have listed :=
          Redis.Link.mem_list_of_popInbox script (congrArg Prod.fst popping) record inside
        obtain ⟨clause, read⟩ := filled.readable record listed
        cases refused.symm.trans read
      · cases none
  · rw [peer.importInbox_of_decided level] at failed
    cases failed

end Filled

/-- A push brings some record. -/
theorem records_ne_nil {words : List String} {invocation : Invocation}
    (parsed : parse words = .ok invocation) (pushes : invocation.name = .push) :
    invocation.inner.records ≠ [] := by
  unfold parse at parsed
  split at parsed
  · cases parsed
  · cases parsed
  · split at parsed
    · cases parsed
    · split at parsed
      · cases parsed
      · rename_i accepted
        cases parsed
        subst pushes
        intro none
        exact accepted ⟨rfl, List.isEmpty_iff.mpr none⟩

/-- The line that tells of a push, which counts what waits modulo the numbers of sixty-four bits. -/
def pushedLine (config : Config) (records : List String) (link : Redis.Link) : String :=
  let waiting :=
    (records.reverse ++ link.server.list config.store.inbox).length % 18446744073709551616
  s!"c Pushed {records.length} records, {waiting} waiting in {config.store.inbox}"

/-- **A push puts all records in the inbox**, where a server answers. -/
theorem push_of_checked (config : Config) {records : List String} {link : Redis.Link}
    (checked : firstFault? (records.map .record) = none) (some : records ≠ [])
    (reachable : link.refusal = none) (script : link.script = []) :
    push config records link = (.ok (), [pushedLine config records link],
      link.opened.after (link.server.setList config.store.inbox
        (records.reverse ++ link.server.list config.store.inbox))
          [.lpush config.store.inbox records]) := by
  have plain : link.opened.Plain := ⟨script, rfl⟩
  have pushes := Redis.Link.push_modulo plain (barePeer config).config.store.inbox some
  rw [push, checkRecords_eq, checked]
  dsimp only [Argument.settle, Option.elim]
  rw [Peer.pushInbox, Store.overConnection_of_connect (Redis.Link.connect_of_reachable reachable),
    pushes]
  rfl

/-- What an import cannot read, where command lines alone have filled the inbox, is the first of its
facts that is refused. -/
theorem importInbox_error {config : Config} {adaptive : Bool} {facts : List Int} {link : Redis.Link}
    (filled : Filled config.store.inbox link) (script : link.script = [])
    {reason : Record.ReadError}
    (failed : (importInbox config adaptive facts link).1 = .error (.record reason)) :
    firstFault? (facts.map .unit) = some reason := by
  rw [importInbox, readLiterals_eq] at failed
  cases refused : firstFault? (facts.map .unit) with
  | some other =>
    rw [refused] at failed
    cases failed
    rfl
  | none =>
    rw [refused] at failed
    dsimp only [Argument.settle, Option.elim] at failed
    generalize withFacts _ _ = solver at failed
    have imported :
        ((barePeer config).importInbox (World.mk link solver)).1 ≠ .error (.record reason) :=
      filled.importInbox_ne script reason
    generalize (barePeer config).importInbox (World.mk link solver) = answer at failed imported
    obtain ⟨outcome, peer, next⟩ := answer
    cases outcome with
    | error fault =>
      cases failed
      exact absurd rfl imported
    | ok report => cases failed

/-- **Arguments are checked before the store is touched, and what is pushed can be read.** Let a
command line be admitted. The first of its arguments that cannot be read, which is a record that
cannot be decoded or a wire integer that is zero or of a magnitude above `4294967296`, is what it
fails for, with status three, and whatever store there is has not been asked for anything. Otherwise
a push puts all records in the inbox of a server that answers, to be popped in the order given
behind those that wait there, and leaves everything else as it is. And where command lines alone
have filled the inbox, an import fails for no record that cannot be decoded: if it fails for
something that cannot be read, this is the first of its own arguments. -/
theorem arguments_checked {words : List String} {invocation : Invocation} {config : Config}
    {lines : List String} (admitted : Admitted words invocation config lines) :
    (∀ reason, firstFault? invocation.arguments = some reason →
      ∀ (ω : Type) [Store ω] (world : ω), run words world =
        (⟨3, lines ++ [storeLine config] ++ invocation.emptyLines ++
          [faultLine (.record reason)]⟩, world)) ∧
    (firstFault? invocation.arguments = none → invocation.name = .push →
      ∀ link : Redis.Link, link.refusal = none → link.script = [] →
      ∃ after, run words link = (⟨0, lines ++ [storeLine config] ++
          [pushedLine config invocation.inner.records link]⟩, after) ∧
        after.server.values = link.server.values ∧
        (∀ other, other ≠ config.store.inbox → after.server.list other = link.server.list other) ∧
        ∀ count ≤ Redis.Server.greatestCount,
          (Store.overConnection (Store.popBatch config.store.inbox count) after).1 =
            .ok
            (((link.server.list config.store.inbox).reverse ++
              invocation.inner.records).take count)) ∧
    (invocation.name = .importInbox →
      ∀ link : Redis.Link, Filled config.store.inbox link → link.script = [] →
      ∀ reason, (runCommand config invocation link).1 = .error (.record reason) →
        firstFault? invocation.arguments = some reason) := by
  refine ⟨fun reason refused ω _ world => ?_, fun accepted pushes link reachable script => ?_,
    fun imports link filled script reason failed => ?_⟩
  · exact admitted.run_of_failed (runCommand_of_fault refused config world)
  · rw [Invocation.arguments, pushes] at accepted
    have pushed := push_of_checked config accepted (records_ne_nil admitted.parsed pushes)
      reachable script
    have commanded :
        runCommand config invocation link = push config invocation.inner.records link := by
      rw [runCommand, pushes]
    refine ⟨_, admitted.run_of_done (commanded.trans pushed), rfl, fun other apart => ?_,
      fun count within => ?_⟩
    · exact (Redis.Server.list_setList ..).trans (if_neg apart)
    · refine Eq.trans (Redis.Link.overConnection_popBatch ?_ ?_ _ within) ?_
      · exact reachable
      · exact script
      · change Except.ok (((link.server.setList _ _).list _).reverse.take count) = _
        rw [Redis.Server.list_setList, if_pos rfl, List.reverse_append, List.reverse_reverse]
  · rw [runCommand, imports] at failed
    rw [Invocation.arguments, imports]
    exact importInbox_error filled script failed

/-- What the words of a push of two records make up. -/
def pushing (first second : String) : Invocation := ⟨{}, .push, { records := [first, second] }⟩

theorem arguments_checked_push :
    (∀ (ω : Type) [Store ω] (world : ω), run ["push", "1 0", "x"] world =
      (⟨3, ["c Store at redis://127.0.0.1:6379/0",
        "c Exchange error: Parse(Token(\"x\")) (Consistency)"]⟩, world)) ∧
    ∃ after, run ["push", "2 0", "-3 +1 0"] ({} : Redis.Link) =
      (⟨0, ["c Store at redis://127.0.0.1:6379/0",
        "c Pushed 2 records, 2 waiting in to_minisat"]⟩, after) ∧
      (Store.overConnection (Store.popBatch "to_minisat" 2) after).1 = .ok ["2 0", "-3 +1 0"] := by
  have refused : Admitted ["push", "1 0", "x"] (pushing "1 0" "x") _ [] := ⟨rfl, rfl, rfl⟩
  have accepted : Admitted ["push", "2 0", "-3 +1 0"] (pushing "2 0" "-3 +1 0") _ [] :=
    ⟨rfl, rfl, rfl⟩
  obtain ⟨fails, -, -⟩ := arguments_checked refused
  obtain ⟨-, pushes, -⟩ := arguments_checked accepted
  have none : firstFault? (pushing "2 0" "-3 +1 0").arguments = none := by decide +kernel
  obtain ⟨after, done, -, -, popped⟩ := pushes none rfl {} rfl rfl
  refine ⟨fun ω _ world => ?_, after, done.trans ?_, popped 2 (by decide)⟩
  · refine (fails (.token "x") (by decide +kernel) ω world).trans (congrArg (·, world) ?_)
    decide +kernel
  · rfl

end CommandLine

end ClauseSharing
