import ClauseSharing.Redis.Reply
import Std.Data.ExtTreeMap

/-! # The server

A server keeps a value under each key and a list under each name. A list that has lost its last
record is no longer there. -/

namespace ClauseSharing.Redis

/-- What a server keeps. -/
@[ext]
structure Server where
  /-- The value under each key. -/
  values : Std.ExtTreeMap String String := ∅
  /-- The records of each list that has some, from head to tail. -/
  lists : Std.ExtTreeMap String (List String) := ∅

namespace Server

/-- The greatest count that a pop may ask for. -/
def greatestCount : Nat := 9223372036854775807

/-- The records of a list from head to tail, none where there is no such list. -/
def list (server : Server) (name : String) : List String := server.lists.getD name []

/-- The server with other records in a list. -/
def setList (server : Server) (name : String) (records : List String) : Server :=
  { server with
    lists := if records.isEmpty then server.lists.erase name else server.lists.insert name records }

/-- Removes records from the tail of a list. -/
def pop (server : Server) (name : String) (count : Nat) : Reply × Server :=
  if greatestCount < count then
    (.error "ERR value is out of range, must be positive", server)
  else
    let waiting := (server.list name).reverse
    if waiting.isEmpty then (.nil, server)
    else
      (.array ((waiting.take count).map .ofText), server.setList name (waiting.drop count).reverse)

/-- Puts records at the head of a list one by one. -/
def push (server : Server) (name : String) (records : List String) : Reply × Server :=
  if records.isEmpty then
    (.error "ERR wrong number of arguments for 'lpush' command", server)
  else
    let list := records.foldl (fun list record => record :: list) (server.list name)
    (.int list.length, server.setList name list)

/-- Answers a command. -/
def execute (server : Server) : Command → Reply × Server
  | .set key value => (.okay, { server with values := server.values.insert key value })
  | .llen name => (.int (server.list name).length, server)
  | .rpop name count => server.pop name count
  | .lpush name records => server.push name records
  | .flushdb => (.okay, {})

end Server

end ClauseSharing.Redis
