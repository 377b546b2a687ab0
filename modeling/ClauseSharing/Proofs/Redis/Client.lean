import ClauseSharing.Proofs.Text.Bytes
import ClauseSharing.Redis.Client
import ClauseSharing.Store.LocalStore

/-! # What a client makes of a server

Over a connection that works, every command of a store comes to one exchange with the server, or to
one for each write of a batch, and the client reads from the replies what the server has done. -/

namespace ClauseSharing.Redis

/-- A list of texts holds no error when it is sent as a reply. -/
theorem Reply.firstErrorIn?_ofText (texts : List String) :
    Reply.firstErrorIn? (texts.map Reply.ofText) = none := by
  induction texts with
  | nil => rw [List.map_nil, Reply.firstErrorIn?]
  | cons text texts ih =>
    have sound : Reply.firstError? (Reply.ofText text) = none := by
      rw [Reply.ofText, Reply.firstError?]
    rw [List.map_cons, Reply.firstErrorIn?, sound]
    exact ih

namespace Link

variable {link : Link}

/-- The link once it is connected. -/
def opened (link : Link) : Link := { link with lost := false }

theorem connect_of_reachable (reachable : link.refusal = none) :
    Store.connect link = (.ok (), link.opened) := by
  change link.connect = _
  rw [Link.connect, opened, reachable]

/-- Whether the connection works and the server itself answers. -/
structure Plain (link : Link) : Prop where
  script : link.script = []
  connected : link.lost = false

/-- The link when commands have been sent and have made of the server what is given. -/
def after (link : Link) (server : Server) (commands : List Command) : Link :=
  { link with server, sent := link.sent ++ commands.toArray }

theorem Plain.after (plain : link.Plain) (server : Server) (commands : List Command) :
    (link.after server commands).Plain := ⟨plain.script, plain.connected⟩

theorem receive_of_plain (plain : link.Plain) (command : Command) :
    link.receive command = (some (link.server.execute command).1,
      { link with server := (link.server.execute command).2 }) := by
  rw [receive, plain.connected, plain.script]
  rfl

theorem send_of_plain (plain : link.Plain) (commands : List Command) :
    link.send commands = link.after link.server commands := by
  have connected : ¬link.lost = true := by
    rw [plain.connected]
    exact Bool.false_ne_true
  exact if_neg connected

/-- A reply that holds no error is passed on. -/
theorem settled_of_sound {reply : Reply} (sound : reply.firstError? = none) :
    settled (some reply) = .ok reply := by
  rw [settled, sound]

theorem settled_okay : settled (some .okay) = .ok .okay :=
  settled_of_sound (by rw [Reply.okay, Reply.firstError?])

theorem ask_of_plain (plain : link.Plain) (command : Command) :
    link.ask command = (settled (some (link.server.execute command).1),
      link.after (link.server.execute command).2 [command]) := by
  rw [ask, send_of_plain plain, receive_of_plain (plain.after link.server [command])]
  rfl

/-- A number is read modulo the numbers of sixty-four bits. -/
theorem number?_ofNat (number : Nat) :
    ∃ size, number? (.int number) = some size ∧ size.toNat = number % 18446744073709551616 := by
  have inside : (0 : Int) ≤ (number : Int) % 18446744073709551616 ∧
      (number : Int) % 18446744073709551616 ≤ 18446744073709551615 := by omega
  refine ⟨⟨_, inside.1, inside.2⟩, dif_pos inside, ?_⟩
  change ((number : Int) % 18446744073709551616).toNat = _
  omega

theorem askNumber_of_int (plain : link.Plain) {command : Command} {number : Nat} {server : Server}
    (answers : link.server.execute command = (.int number, server)) :
    link.askNumber command =
      (.ok (number % 18446744073709551616), link.after server [command]) := by
  obtain ⟨size, read, same⟩ := number?_ofNat number
  have sound : settled (some (.int number)) = .ok (.int number) :=
    settled_of_sound (by rw [Reply.firstError?])
  rw [askNumber, ask_of_plain plain, answers, sound]
  simp only [read, same]

theorem record_ofText (text : String) : record (Reply.ofText text) = .ok text := by
  rw [Reply.ofText, record, Utf8.decode_encode]

theorem recordsOf_ofText (texts : List String) :
    recordsOf (texts.map Reply.ofText) = .ok texts := by
  induction texts with
  | nil => rfl
  | cons text texts ih =>
    rw [List.map_cons, recordsOf, record_ofText, ih]
    rfl

/-- **Records are read as the server holds them**, the oldest first. -/
theorem popBatch_of_plain (plain : link.Plain) (name : String) {count : Nat}
    (accepted : count ≤ Server.greatestCount) :
    Store.popBatch name count link =
      (.ok ((link.server.list name).reverse.take count),
        link.after (link.server.pop name count).2 [.rpop name count]) := by
  have within : ¬Server.greatestCount < count := Nat.not_lt_of_le accepted
  have asks := ask_of_plain plain (.rpop name count)
  change link.ask (.rpop name count) = (settled (some (link.server.pop name count).1),
    link.after (link.server.pop name count).2 [.rpop name count]) at asks
  change popBatch name count link = _
  rw [popBatch, asks]
  by_cases none : link.server.list name = []
  · have nothing : (link.server.pop name count).1 = .nil := by
      rw [Server.pop, if_neg within, none]
      rfl
    have sound : settled (some .nil) = .ok .nil := settled_of_sound (by rw [Reply.firstError?])
    rw [nothing, sound, none, List.reverse_nil, List.take_nil]
    rfl
  · have waiting : ¬(link.server.list name).reverse.isEmpty = true := by
      rwa [List.isEmpty_iff, List.reverse_eq_nil_iff]
    have several : (link.server.pop name count).1 =
        .array (((link.server.list name).reverse.take count).map .ofText) := by
      rw [Server.pop, if_neg within]
      dsimp only
      rw [if_neg waiting]
    have sound (texts : List String) :
        settled (some (.array (texts.map .ofText))) = .ok (.array (texts.map .ofText)) :=
      settled_of_sound (by rw [Reply.firstError?, Reply.firstErrorIn?_ofText])
    rw [several, sound]
    dsimp only
    rw [records, recordsOf_ofText]

/-- What is popped was in the list, however much is asked for. -/
theorem mem_list_of_popBatch (plain : link.Plain) {name : String} {count : Nat}
    {records : List String} (popped : (Store.popBatch name count link).1 = .ok records) :
    ∀ record ∈ records, record ∈ link.server.list name := by
  by_cases accepted : count ≤ Server.greatestCount
  · rw [popBatch_of_plain plain name accepted] at popped
    cases popped
    intro record inside
    exact List.mem_reverse.mp (List.mem_of_mem_take inside)
  · have refused : (link.server.pop name count).1 =
        .error "ERR value is out of range, must be positive" := by
      rw [Server.pop, if_pos (Nat.lt_of_not_le accepted)]
    have asks := ask_of_plain plain (.rpop name count)
    change link.ask (.rpop name count) = (settled (some (link.server.pop name count).1), _) at asks
    change (popBatch name count link).1 = _ at popped
    rw [popBatch, asks, refused, settled, Reply.firstError?] at popped
    cases popped

/-- The length of a list is told modulo the numbers of sixty-four bits. -/
theorem listLength_modulo (plain : link.Plain) (name : String) :
    Store.listLength name link =
      (.ok ((link.server.list name).length % 18446744073709551616),
        link.after link.server [.llen name]) :=
  askNumber_of_int plain rfl

theorem listLength_of_plain (plain : link.Plain) (name : String)
    (bounded : (link.server.list name).length < 18446744073709551616) :
    Store.listLength name link =
      (.ok (link.server.list name).length, link.after link.server [.llen name]) := by
  rw [listLength_modulo plain, Nat.mod_eq_of_lt bounded]

/-- **Pushed records are put at the head one by one**, and the length of the list is told modulo the
numbers of sixty-four bits. -/
theorem push_modulo (plain : link.Plain) (name : String) {records : List String}
    (some : records ≠ []) :
    Store.push name records link =
      (.ok ((records.reverse ++ link.server.list name).length % 18446744073709551616),
        link.after (link.server.setList name (records.reverse ++ link.server.list name))
          [.lpush name records]) := by
  have order : records.foldl (fun list record => record :: list) (link.server.list name) =
      records.reverse ++ link.server.list name := List.foldl_flip_cons_eq_append'
  have pushes : link.server.execute (.lpush name records) =
      (.int (records.reverse ++ link.server.list name).length,
        link.server.setList name (records.reverse ++ link.server.list name)) := by
    change link.server.push name records = _
    rw [Server.push, if_neg (by rwa [List.isEmpty_iff]), order]
  exact askNumber_of_int plain pushes

theorem push_of_plain (plain : link.Plain) (name : String) {records : List String}
    (some : records ≠ [])
    (bounded : (records.reverse ++ link.server.list name).length < 18446744073709551616) :
    Store.push name records link =
      (.ok (records.reverse ++ link.server.list name).length,
        link.after (link.server.setList name (records.reverse ++ link.server.list name))
          [.lpush name records]) := by
  rw [push_modulo plain name some, Nat.mod_eq_of_lt bounded]

theorem flush_of_plain (plain : link.Plain) :
    Store.flush link = (.ok (), link.after {} [.flushdb]) := by
  have asks := ask_of_plain plain .flushdb
  change link.ask .flushdb = (settled (some .okay), link.after {} [.flushdb]) at asks
  change flush link = _
  rw [flush, asks, settled_okay]

/-- The writes of a batch as they are sent. -/
def sets (writes : List Write) : List Command := writes.map fun (key, value) => .set key value

theorem receiveAll_sets (plain : link.Plain) (writes : List Write) :
    link.receiveAll (sets writes) = (writes.map fun _ => some .okay,
      { link with server := { link.server with
        values := writes.foldl LocalStore.write link.server.values } }) := by
  induction writes generalizing link with
  | nil => rfl
  | cons pair writes ih =>
    let next : Link := { link with server := { link.server with
      values := LocalStore.write link.server.values pair } }
    have first : link.receive (.set pair.1 pair.2) = (some .okay, next) := receive_of_plain plain _
    have rest : next.receiveAll (sets writes) = _ := ih ⟨plain.script, plain.connected⟩
    change (link.receiveAll (.set pair.1 pair.2 :: sets writes)) = _
    rw [receiveAll, first]
    dsimp only
    rw [rest]
    rfl

theorem mapM_settled_okay (writes : List Write) :
    (writes.map fun _ => some Reply.okay).mapM settled = .ok (writes.map fun _ => Reply.okay) := by
  induction writes with
  | nil => rfl
  | cons pair writes ih =>
    rw [List.map_cons, List.mapM_cons, settled_okay, ih]
    rfl

theorem acknowledged_okay (writes : List Write) :
    acknowledged (writes.map fun _ => Reply.okay) = .ok () := by
  induction writes with
  | nil => rfl
  | cons pair writes ih => exact ih

/-- There is a reply to each command, or a sign that none came. -/
theorem length_receiveAll (link : Link) (commands : List Command) :
    (link.receiveAll commands).1.length = commands.length := by
  induction commands generalizing link with
  | nil => rfl
  | cons command commands ih => exact congrArg (· + 1) (ih (link.receive command).2)

/-- Replies are settled one by one, or the first that cannot be says why. -/
theorem mapM_settled_cases (received : List (Option Reply)) :
    (∃ replies, received.mapM settled = .ok replies ∧ replies.length = received.length) ∨
      ∃ reply reason, settled reply = .error reason ∧ received.mapM settled = .error reason := by
  induction received with
  | nil => exact .inl ⟨[], rfl, rfl⟩
  | cons reply received ih =>
    rw [List.mapM_cons]
    cases first : settled reply with
    | error reason => exact .inr ⟨reply, reason, first, rfl⟩
    | ok sound =>
      rcases ih with ⟨replies, all, many⟩ | ⟨later, reason, failed, all⟩
      · exact .inl ⟨sound :: replies, by rw [all]; rfl, congrArg (· + 1) many⟩
      · exact .inr ⟨later, reason, failed, by rw [all]; rfl⟩

theorem ne_missingReply_of_settled {reply : Option Reply} {reason : StoreError}
    (failed : settled reply = .error reason) (requested received : Nat) :
    reason ≠ .missingReply requested received := by
  rintro rfl
  unfold settled at failed
  split at failed
  · cases failed
  · split at failed
    · cases failed
    · cases failed

theorem acknowledged_ne_missingReply (replies : List Reply) (requested received : Nat) :
    acknowledged replies ≠ .error (.missingReply requested received) := by
  induction replies with
  | nil =>
    intro missing
    cases missing
  | cons reply replies ih =>
    intro missing
    unfold acknowledged at missing
    split at missing
    · cases missing
    · rename_i rest same
      rw [(List.cons.inj same).2] at ih
      exact ih missing
    · cases missing

/-- **No batch is found to lack replies**: a connection that is lost before the last one is noticed
as lost, whatever is sent and received over it. -/
theorem writeBatch_ne_missingReply (link : Link) (writes : List Write) (requested received : Nat) :
    (Store.writeBatch writes link).1 ≠ .error (.missingReply requested received) := by
  intro missing
  let commands := writes.map fun (key, value) => Command.set key value
  have answered : ((link.send commands).receiveAll commands).1.length = writes.length := by
    rw [length_receiveAll, List.length_map]
  change (writeBatch writes link).1 = _ at missing
  unfold writeBatch at missing
  dsimp only at missing
  rcases mapM_settled_cases ((link.send commands).receiveAll commands).1 with
    ⟨replies, all, many⟩ | ⟨reply, reason, failed, all⟩
  · rw [all] at missing
    have whole : ¬replies.length ≠ writes.length := not_not_intro (many.trans answered)
    dsimp only at missing
    rw [checkReplies, if_neg whole] at missing
    exact acknowledged_ne_missingReply replies requested received missing
  · rw [all] at missing
    exact ne_missingReply_of_settled failed requested received (Except.error.inj missing)

theorem checkReplies_okay (writes : List Write) :
    checkReplies writes.length (writes.map fun _ => Reply.okay) = .ok () := by
  have whole : ¬(writes.map fun _ => Reply.okay).length ≠ writes.length :=
    not_not_intro (List.length_map _)
  rw [checkReplies, if_neg whole, acknowledged_okay]

/-- **A batch is acknowledged**, and its writes are done in order. -/
theorem writeBatch_of_plain (plain : link.Plain) (writes : List Write) :
    Store.writeBatch writes link = (.ok (), link.after { link.server with
      values := writes.foldl LocalStore.write link.server.values } (sets writes)) := by
  have replies : (link.send (sets writes)).receiveAll (sets writes) =
      (writes.map fun _ => some .okay, link.after { link.server with
        values := writes.foldl LocalStore.write link.server.values } (sets writes)) := by
    rw [send_of_plain plain, receiveAll_sets (plain.after _ _)]
    rfl
  change writeBatch writes link = _
  unfold writeBatch
  unfold sets at replies ⊢
  dsimp only at replies ⊢
  rw [replies]
  dsimp only
  rw [mapM_settled_okay]
  dsimp only
  rw [checkReplies_okay]

end Link

end ClauseSharing.Redis
