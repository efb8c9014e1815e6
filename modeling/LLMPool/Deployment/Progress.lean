import LLMPool.Billing.LockOrder
import LLMPool.Deployment.Conduct

/-! The server and its workers are never in a deadlock: only the workers hold locks over calls, and they
take them in order. -/
namespace LLMPool.Deployment
open Relational Transactions Billing

section Kinds
variable {hashToken : String → String} {party : Party}

theorem ordered_eventWorker : eventWorker.Climbs lockRank := by
  refine path_bind.mpr (path_op (P := Ordered) (ordered_remote _) ?_)
  rintro (reason | (_ | event)) _
  · trivial
  · trivial
  · dsimp only
    rw [path_bind]
    refine path_mono (fun _ _ climbs => climbs) ?_ (ordered_handleEvent event)
    exact fun _ _ _ => path_bind.mpr (path_op (P := Ordered) (ordered_remote _) (fun _ _ => trivial))

theorem Kind.climbs {p : Action Unit} (kind : Kind hashToken party p) : p.Climbs lockRank := by
  cases kind with
  | pooled path =>
      exact Prog.climbs_of_pooled (path_mono (fun _ _ pooled => pooled.recordless.1) (fun _ _ ended => ended) path)
  | transfers job only =>
      exact Prog.climbs_of_pooled (path_mono (fun _ _ transfers => transfers.onPool) (fun _ _ ended => ended) only.made)
  | eventWorker => exact ordered_eventWorker
  | balanceChangeWorker => exact ordered_balanceChangeWorker

end Kinds

section Runs
variable {ι : Type} [DecidableEq ι] {D : Discipline engine} {hashToken : String → String} {party : ι → Party}
  {db : Db} {world : World} {s : State engine ι}

/-- Wherever requests, tasks and workers have got to, with any failures, they are not in a deadlock:
where one of them has not returned, one of them can make its next call, and finitely many can all
be run to their ends without a further failure. -/
theorem no_deadlock [Finite ι] (reached : Reaches D (deployment hashToken db world party) history s) :
    ((∀ i, (s.procs i).Returned) ∨ ∃ i ws s', Step (.any False) s i ws s') ∧
      ∃ history' s', Reaches (.any False) s history' s' ∧ ∀ i, (s'.procs i).Returned := by
  have ranked := reached.ranked (.starting (fun i => ((party i).kind hashToken).climbs))
  exact ⟨ranked.progress statements_drawn lockRank_le, ranked.completes statements_drawn lockRank_le⟩

end Runs

/-- Two deposits for an account that has no wallet yet. -/
def firstDeposits : Db := { Db.empty with
  balanceChanges := (Table.empty.insert (unsettled 1 1 "deposit-1" (.deposit 10))).insert
    (unsettled 2 1 "deposit-2" (.deposit 5)) }

def twoTasks : World := { World.empty with queue := [⟨1⟩, ⟨2⟩] }

def twoWorkers (_ : Fin 2) : Party := .balanceChangeWorker

/-- The second worker waits for the wallet that the first one has inserted; both can be ended. -/
theorem no_deadlock_at_wallet : ∃ history s,
    Reaches (.any False) (deployment id firstDeposits twoTasks twoWorkers) history s ∧
      (¬(s.procs 1).Returned ∧ (s.take (.any False) 1 (.run (Env.plain 0 9))).isNone = true) ∧
      ∃ history' s', Reaches (.any False) s history' s' ∧ ∀ i, (s'.procs i).Returned := by
  obtain ⟨history, s, reached, waiting⟩ := State.exists_of_play (.any False)
    (deployment id firstDeposits twoTasks twoWorkers) (schedule [0, 0, 0, 0, 0, 1, 1, 1, 1])
    (fun s => ¬(s.procs 1).Returned ∧ (s.take (.any False) 1 (.run (Env.plain 0 9))).isNone = true)
    (by decide +kernel)
  exact ⟨history, s, reached, waiting, (no_deadlock reached).2⟩

end LLMPool.Deployment
