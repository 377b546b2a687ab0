import ClauseSharing.Text.Quoted
import ClauseSharing.Text.Utf8

/-! # Commands and replies

What a Redis client sends and what it gets back, as far as sharing clauses needs them. -/

namespace ClauseSharing.Redis

/-- A command to the server. -/
inductive Command where
  | set (key value : String)
  | llen (name : String)
  | rpop (name : String) (count : Nat)
  | lpush (name : String) (records : List String)
  | flushdb
deriving DecidableEq

namespace Command

/-- The words of a command, as they are sent. -/
def words : Command → List String
  | set key value => ["SET", key, value]
  | llen name => ["LLEN", name]
  | rpop name count => ["RPOP", name, toString count]
  | lpush name records => "LPUSH" :: name :: records
  | flushdb => ["FLUSHDB"]

end Command

/-- A reply of the server. -/
inductive Reply where
  | nil
  | int (number : Int)
  /-- A status on one line. -/
  | simple (status : String)
  /-- Any bytes. -/
  | bulk (bytes : List UInt8)
  | array (replies : List Reply)
  | error (reason : String)

namespace Reply

/-- The reply to a command that was done and has nothing to tell. -/
def okay : Reply := simple "OK"

/-- A text as a reply. -/
def ofText (text : String) : Reply := bulk (Utf8.encode text)

mutual

/-- The first error in a reply, however deep. -/
def firstError? : Reply → Option String
  | error reason => some reason
  | array replies => firstErrorIn? replies
  | nil | int _ | simple _ | bulk _ => none

/-- The first error in a list of replies. -/
def firstErrorIn? : List Reply → Option String
  | [] => none
  | reply :: replies =>
    match firstError? reply with
    | some reason => some reason
    | none => firstErrorIn? replies

end

/-- Bytes in decimal between brackets. -/
def describeBytes (bytes : List UInt8) : String :=
  "[" ++ ", ".intercalate (bytes.map fun byte => toString byte.toNat) ++ "]"

mutual

/-- A reply as an error of the store shows it. -/
def describe : Reply → String
  | nil => "nil"
  | int number => "int(" ++ toString number ++ ")"
  | simple status => if status = "OK" then "ok" else "simple-string(" ++ Text.quote status ++ ")"
  | bulk bytes =>
    match Utf8.decode bytes with
    | .ok text => "bulk-string('" ++ Text.quote text ++ "')"
    | .error _ => "binary-data(" ++ describeBytes bytes ++ ")"
  | array replies => "array([" ++ ", ".intercalate (describeAll replies) ++ "])"
  | error reason => "server-error(" ++ Text.quote reason ++ ")"

/-- Replies as an error of the store shows them. -/
def describeAll : List Reply → List String
  | [] => []
  | reply :: replies => describe reply :: describeAll replies

end

end Reply

end ClauseSharing.Redis
