import ClauseSharing.Proofs.Redis.Client
import ClauseSharing.Proofs.Store.LocalStore

/-! # What the lists of a server hold

Whatever a server is sent, and whatever replies stand in place of its own, a list holds no records
but those that it held and those that are pushed to it (`Redis.Server.mem_list_execute`). So what is
true of every record in a list stays true of them, as long as it is true of every record that is
pushed (`Redis.Link.Every`). -/

namespace ClauseSharing.Redis

namespace Server

theorem list_setList (server : Server) (name : String) (records : List String) (other : String) :
    (server.setList name records).list other = if other = name then
      records else server.list other :=
  LocalStore.list_setList { values := server.values, lists := server.lists } name other records

/-- No command puts a record in a list but one that pushes it there. -/
theorem mem_list_execute {server : Server} {command : Command} {name record : String}
    (inside : record ∈ (server.execute command).2.list name) :
    record ∈ server.list name ∨ ∃ records, command = .lpush name records ∧ record ∈ records := by
  cases command with
  | set key value => exact .inl inside
  | llen other => exact .inl inside
  | rpop other count =>
    change record ∈ (server.pop other count).2.list name at inside
    unfold pop at inside
    split at inside
    · exact .inl inside
    · dsimp only at inside
      split at inside
      · exact .inl inside
      · rw [list_setList] at inside
        split at inside
        · rename_i same
          rw [same]
          exact .inl (List.mem_reverse.mp (List.mem_of_mem_drop (List.mem_reverse.mp inside)))
        · exact .inl inside
  | lpush other records =>
    change record ∈ (server.push other records).2.list name at inside
    unfold push at inside
    split at inside
    · exact .inl inside
    · dsimp only at inside
      rw [list_setList, List.foldl_flip_cons_eq_append'] at inside
      split at inside
      · rename_i same
        subst same
        rcases List.mem_append.mp inside with pushed | earlier
        · exact .inr ⟨records, rfl, List.mem_reverse.mp pushed⟩
        · exact .inl earlier
      · exact .inl inside
  | flushdb =>
    have none : (server.execute .flushdb).2.list name = [] := Std.ExtTreeMap.getD_empty
    rw [none] at inside
    exact absurd inside List.not_mem_nil

end Server

namespace Link

/-- Whether every record in a list of the server is of a kind. -/
def Every (good : String → Prop) (name : String) (link : Link) : Prop :=
  ∀ record ∈ link.server.list name, good record

namespace Every

variable {good : String → Prop} {name : String} {link : Link} (every : Every good name link)

include every

theorem receive {command : Command}
    (new : ∀ records, command = .lpush name records → ∀ record ∈ records, good record) :
    Every good name (link.receive command).2 := by
  unfold Link.receive
  split
  · exact every
  · split
    · exact every
    · exact every
    · intro record inside
      rcases Server.mem_list_execute inside with held | ⟨records, pushes, pushed⟩
      · exact every record held
      · exact new records pushes record pushed

theorem send (commands : List Command) : Every good name (link.send commands) := by
  unfold Link.send
  split
  · exact every
  · exact every

theorem receiveAll {commands : List Command}
    (new : ∀ command ∈ commands, ∀ records, command ≠ .lpush name records) :
    Every good name (link.receiveAll commands).2 := by
  induction commands generalizing link with
  | nil => exact every
  | cons command commands ih =>
    obtain ⟨first, others⟩ := List.forall_mem_cons.mp new
    exact ih (every.receive fun records pushes => absurd pushes (first records)) others

theorem ask {command : Command}
    (new : ∀ records, command = .lpush name records → ∀ record ∈ records, good record) :
    Every good name (link.ask command).2 :=
  (every.send [command]).receive new

theorem askNumber {command : Command}
    (new : ∀ records, command = .lpush name records → ∀ record ∈ records, good record) :
    Every good name (link.askNumber command).2 := by
  have asked := every.ask new
  unfold Link.askNumber
  generalize link.ask command = answer at asked ⊢
  obtain ⟨outcome, next⟩ := answer
  cases outcome with
  | error reason => exact asked
  | ok reply =>
    dsimp only
    split <;> exact asked

theorem connect : Every good name (Store.connect link).2 := by
  change Every good name link.connect.2
  unfold Link.connect
  split
  · exact every
  · exact every

theorem writeBatch (writes : List Write) : Every good name (Store.writeBatch writes link).2 := by
  refine (every.send _).receiveAll fun command inside records => ?_
  obtain ⟨pair, -, rfl⟩ := List.mem_map.mp inside
  exact nofun

theorem listLength (other : String) : Every good name (Store.listLength other link).2 :=
  every.askNumber fun _ pushes => by cases pushes

theorem popBatch (other : String) (count : Nat) :
    Every good name (Store.popBatch other count link).2 := by
  have asked : Every good name (link.ask (.rpop other count)).2 :=
    every.ask fun _ pushes => by cases pushes
  change Every good name (Link.popBatch other count link).2
  unfold Link.popBatch
  generalize link.ask (.rpop other count) = answer at asked ⊢
  obtain ⟨outcome, next⟩ := answer
  cases outcome with
  | error reason => exact asked
  | ok reply => exact asked

theorem push {other : String} {records : List String}
    (new : other = name → ∀ record ∈ records, good record) :
    Every good name (Store.push other records link).2 := by
  refine every.askNumber fun pushed pushes => ?_
  cases pushes
  exact new rfl

theorem flush : Every good name (Store.flush link).2 := by
  have asked : Every good name (link.ask .flushdb).2 := every.ask fun _ pushes => by cases pushes
  change Every good name (Link.flush link).2
  unfold Link.flush
  generalize link.ask .flushdb = answer at asked ⊢
  obtain ⟨outcome, next⟩ := answer
  cases outcome with
  | error reason => cases reason <;> exact asked
  | ok reply => exact asked

end Every

end Link

end ClauseSharing.Redis
