import ClauseSharing.Record
import ClauseSharing.Setting
import ClauseSharing.Store
import ClauseSharing.Text.Quoted

/-! # Faults

Every way in which an operation fails, with the wording that reports use. A fault is one of
connectivity when the store is to blame, and one of consistency when a contract between instances,
their solvers and their settings is broken. -/

namespace ClauseSharing

/-- Why queued units and clauses could not be published. -/
inductive PublishError where
  /-- No identifier is left. -/
  | identifiersExhausted
  /-- A queued clause has been removed from the solver. -/
  | removedClause
  /-- A queued clause has fewer than two literals. -/
  | shortClause
  /-- A queue was to be emptied of another number of entries than it has. -/
  | queueNotDrained
  /-- Batches hold no write at all. -/
  | noBatchWidth
deriving DecidableEq

/-- Why an inbox could not be imported. -/
inductive ImportError where
  /-- The solver has made decisions. -/
  | decisionLevel (level : Nat)
  /-- A record holds the empty clause. -/
  | emptyRecord
deriving DecidableEq

/-- Why an operation failed. -/
inductive Fault where
  | setting (error : SettingError)
  | publishing (error : PublishError)
  | importing (error : ImportError)
  | record (error : Record.ReadError)
  | store (error : StoreError)
deriving DecidableEq

/-- Where the blame for a fault lies. -/
inductive FaultClass where
  /-- With the store or the way to it. -/
  | connectivity
  /-- With an instance, its solver or a peer. -/
  | consistency
deriving DecidableEq

/-- A name with arguments between parentheses, as reports show values. -/
def applied (name : String) (argument : String) : String :=
  name ++ "(" ++ argument ++ ")"

/-- A name with named fields between braces, as reports show values. -/
def withFields (name : String) (fields : List (String × String)) : String :=
  let shown := fields.map fun (field, value) => field ++ ": " ++ value
  name ++ " \x7b " ++ ", ".intercalate shown ++ " \x7d"

namespace SettingError

/-- The wording of a refusal. -/
def describe : SettingError → String
  | outOfBounds name => withFields "OutOfBounds" [("name", Text.quote name)]
  | unreadable name => withFields "Unparsable" [("name", Text.quote name)]

end SettingError

namespace PublishError

/-- The wording of a failure to publish. -/
def describe : PublishError → String
  | identifiersExhausted => "CounterExhausted"
  | removedClause => "RemovedClause"
  | shortClause => "ShortClause"
  | queueNotDrained => "BufferNotDrained"
  | noBatchWidth => "NoBatchWidth"

end PublishError

namespace ImportError

/-- The wording of a failure to import. -/
def describe : ImportError → String
  | decisionLevel level => applied "DecisionLevel" (toString level)
  | emptyRecord => "EmptyRecord"

end ImportError

namespace Record.ReadError

/-- The wording of a failure to read a record. -/
def describe : Record.ReadError → String
  | token word => applied "Token" (Text.quote word)
  | trailing => "TrailingToken"
  | unterminated => "Unterminated"
  | notLiteral int => applied "AtomOverflow" (toString int)

end Record.ReadError

namespace StoreError

/-- The wording of a failure of the store. -/
def describe : StoreError → String
  | connection reason => applied "Connection" (Text.quote reason)
  | command reason => applied "Command" (Text.quote reason)
  | missingReply requested received =>
    withFields "MissingReply" [("requested", toString requested), ("received", toString received)]
  | unexpectedReply reply => applied "UnexpectedReply" (Text.quote reply)
  | popMismatch requested returned =>
    withFields "PopMismatch" [("requested", toString requested), ("returned", toString returned)]
  | flush reason => applied "Flush" (Text.quote reason)
  | oversizedPop requested => applied "OversizedPop" (toString requested)

end StoreError

namespace FaultClass

/-- The name of a class of faults. -/
def name : FaultClass → String
  | connectivity => "Connectivity"
  | consistency => "Consistency"

end FaultClass

namespace Fault

/-- The class of a fault. -/
def faultClass : Fault → FaultClass
  | store _ => .connectivity
  | setting _ | publishing _ | importing _ | record _ => .consistency

/-- The wording of a fault. -/
def describe : Fault → String
  | setting error => applied "Config" error.describe
  | publishing error => applied "Export" error.describe
  | importing error => applied "Import" error.describe
  | record error => applied "Parse" error.describe
  | store error => applied "Store" error.describe

end Fault

end ClauseSharing
