import ClauseSharing.Number.Ranged
import ClauseSharing.Redis.Server
import ClauseSharing.Store

/-! # The client

A client turns the commands of a store into commands to a server, and the replies into answers. The
writes of a batch are all sent before the first reply is read, and all replies are read before any
is looked at: an error among them wins over their number, and that over a reply of an unexpected
kind. The link to the server may be down, may be lost, and may have replies laid down for it in
place of the server's. -/

namespace ClauseSharing.Redis

/-- The way to a server, with all that was sent over it. -/
structure Link where
  server : Server := {}
  /-- The reason with which connections are refused, if they are. -/
  refusal : Option String := none
  /-- Replies that are given in place of the server's, which then does nothing, where `none` loses
  the connection. -/
  script : List (Option Reply) := []
  /-- Whether the open connection has been lost. -/
  lost : Bool := false
  /-- The commands sent, the first one first. -/
  sent : Array Command := #[]

namespace Link

/-- The reason given when a connection is lost. -/
def lostReason : String := "the connection was lost"

/-- The reply to the next command, or nothing when the connection is lost. -/
def receive (link : Link) (command : Command) : Option Reply × Link :=
  if link.lost then (none, link)
  else
    match link.script with
    | some reply :: script => (some reply, { link with script })
    | none :: script => (none, { link with script, lost := true })
    | [] =>
      let (reply, server) := link.server.execute command
      (some reply, { link with server })

/-- The replies to commands, in order. -/
def receiveAll (link : Link) : List Command → List (Option Reply) × Link
  | [] => ([], link)
  | command :: commands =>
    let (reply, link) := link.receive command
    let (replies, link) := link.receiveAll commands
    (reply :: replies, link)

/-- Sends commands, unless the connection is lost. -/
def send (link : Link) (commands : List Command) : Link :=
  if link.lost then link else { link with sent := link.sent ++ commands.toArray }

/-- A reply that is no error, or what the store says of it. -/
def settled : Option Reply → Except StoreError Reply
  | none => .error (.connection lostReason)
  | some reply =>
    match reply.firstError? with
    | some reason => .error (.command reason)
    | none => .ok reply

/-- Sends one command and reads its reply. -/
def ask (link : Link) (command : Command) : Except StoreError Reply × Link :=
  let (reply, link) := (link.send [command]).receive command
  (settled reply, link)

/-- The number that a reply holds: an integer taken modulo the numbers of sixty-four bits, or the
text of one. -/
def number? : Reply → Option Size
  | .int number => Ranged.ofInt? (number % 18446744073709551616)
  | .simple status => if status = "OK" then none else Ranged.ofText? status
  | .bulk bytes => (Utf8.decode bytes).toOption.bind Ranged.ofText?
  | .nil | .array _ | .error _ => none

/-- The reason given when a reply is not of the kind that its command has. -/
def incompatible (reply : Reply) : StoreError :=
  .command s!"Response was of incompatible type - TypeError: {reply.describe}"

/-- Sends one command whose reply is a number. -/
def askNumber (link : Link) (command : Command) : Except StoreError Nat × Link :=
  match link.ask command with
  | (.error reason, link) => (.error reason, link)
  | (.ok reply, link) =>
    match number? reply with
    | some number => (.ok number.toNat, link)
    | none => (.error (incompatible reply), link)

/-- A popped record, which is a text, and no status that means success. -/
def record : Reply → Except StoreError String
  | .bulk bytes =>
    match Utf8.decode bytes with
    | .ok text => .ok text
    | .error flaw => .error (.unexpectedReply flaw.message)
  | .simple status =>
    if status = "OK" then .error (.unexpectedReply (Reply.describe (.simple status)))
    else .ok status
  | reply => .error (.unexpectedReply reply.describe)

/-- Popped records up to the first that is none. -/
def recordsOf : List Reply → Except StoreError (List String)
  | [] => .ok []
  | reply :: replies =>
    match record reply with
    | .error reason => .error reason
    | .ok text => (recordsOf replies).map (text :: ·)

/-- The records of a reply to a pop: those of an array, one on its own, or none. -/
def records (reply : Reply) : Except StoreError (List String) :=
  match reply with
  | .nil => .ok []
  | .array replies => recordsOf replies
  | .bulk bytes => recordsOf [.bulk bytes]
  | reply => .error (incompatible reply)

/-- Checks that every reply to a batch of writes says that the write was done. -/
def acknowledged : List Reply → Except StoreError Unit
  | [] => .ok ()
  | .simple "OK" :: replies => acknowledged replies
  | reply :: _ => .error (.unexpectedReply reply.describe)

/-- Opens a connection. -/
def connect (link : Link) : Except StoreError Unit × Link :=
  match link.refusal with
  | some reason => (.error (.connection reason), link)
  | none => (.ok (), { link with lost := false })

/-- Checks the replies to a batch of so many writes: that no write is left without, and that every
reply says that the write was done. -/
def checkReplies (requested : Nat) (replies : List Reply) : Except StoreError Unit :=
  if replies.length ≠ requested then .error (.missingReply requested replies.length)
  else acknowledged replies

/-- Writes a batch. -/
def writeBatch (writes : List Write) (link : Link) : Except StoreError Unit × Link :=
  let commands := writes.map fun (key, value) => Command.set key value
  let (replies, link) := (link.send commands).receiveAll commands
  (match replies.mapM settled with
    | .error reason => .error reason
    | .ok replies => checkReplies writes.length replies, link)

/-- Removes records from the tail of a list. -/
def popBatch (name : String) (count : Nat) (link : Link) :
    Except StoreError (List String) × Link :=
  match link.ask (.rpop name count) with
  | (.error reason, link) => (.error reason, link)
  | (.ok reply, link) => (records reply, link)

/-- Removes everything. Whatever goes wrong here is a failure to empty the store. -/
def flush (link : Link) : Except StoreError Unit × Link :=
  match link.ask .flushdb with
  | (.ok _, link) => (.ok (), link)
  | (.error (.connection reason), link) | (.error (.command reason), link) =>
    (.error (.flush reason), link)
  | (.error reason, link) => (.error reason, link)

instance : Store Link where
  connect := connect
  release link := link
  writeBatch := writeBatch
  listLength name link := link.askNumber (.llen name)
  popBatch := popBatch
  push name records link := link.askNumber (.lpush name records)
  flush := flush

end Link

end ClauseSharing.Redis
