import LLMPool.Billing.Ledger

/-! Concurrent settlements and the wallet: it is read without a lock and written
back as an absolute value, so two of them can lose an update. -/
namespace LLMPool.Billing
open Relational Transactions
variable {ι : Type} [DecidableEq ι] {D : Discipline engine} {db : Db} {world : World}
  {task : ι → BalanceChangeTask} {s : State engine ι}

theorem Settles.balance {id : Int} (current : WalletCurrent D) (settles : Settles D id db db')
    (grows : Grows db₀ db)
    (kept : balanceOf db a = balanceOf db₀ a + settledSince db₀ (·.accountId = a) walletEffect db) :
    balanceOf db' a = balanceOf db₀ a + settledSince db₀ (·.accountId = a) walletEffect db' := by
  obtain ⟨S, _, ready, final, rfl⟩ := settles
  rw [balanceOf_writes ready final (ready.current current), settledSince_writes ready grows, kept,
    add_assoc]
  rfl

/-- If no wallet is written from a stale value, every balance is the initial one
plus the effects of the settled balance changes, in every state of a run. -/
theorem balances_kept (current : WalletCurrent D)
    (reached : Reaches D (deliveries db world task) history s) (a : Int) :
    balanceOf s.db a = balanceOf db a + settledSince db (·.accountId = a) walletEffect s.db := by
  obtain ⟨_, chain⟩ := deliveries_chain False.elim reached
  refine chain.invariant (I := fun _ db' =>
    balanceOf db' a = balanceOf db a + settledSince db (·.accountId = a) walletEffect db') ?_ ?_
  · exact (add_eq_left.mpr (settledSince_start db)).symm
  · intro history i writes mid earlier kept settles
    have grows : Grows db mid := earlier.rel (R := growth) settling_grows
    exact Settles.balance current settles grows kept

def twoDeposits : Db := { Db.empty with
  wallets := Table.empty.insert ⟨1, 1, 100⟩
  balanceChanges := (Table.empty.insert (unsettled 1 1 "deposit-1" (.deposit 10))).insert
    (unsettled 2 1 "deposit-2" (.deposit 5)) }

def both (i : Fin 2) : BalanceChangeTask := ⟨i.val + 1⟩

/-- Two deposits of 10 and 5 on a wallet of 100, both read before either is stored. -/
theorem an_update_is_lost : ∃ history s,
    Reaches (Discipline.any False) (deliveries twoDeposits .empty both) history s ∧
      (∀ i, (s.procs i).Returned) ∧ (∀ i, Applied s.db (both i).balanceChangeId) ∧
      balanceOf s.db 1 = 105 ∧
      balanceOf twoDeposits 1 + settledSince twoDeposits (·.accountId = 1) walletEffect s.db = 115 :=
  State.exists_of_play _ _ (schedule [0, 0, 0, 1, 1, 1, 0, 0, 0, 0, 1, 1, 1, 1]) _
    (by decide +kernel)

/-- No call fails, each `UPDATE wallets` finds the row as its transaction read it,
and each `INSERT INTO wallets` an account that has none. -/
def currentWallets : Discipline engine := ⟨fun _ => False, False, walletCurrent⟩

theorem currentWallets_healthy : Healthy currentWallets :=
  ⟨fun _ => not_false, fun _ _ _ admitted => admitted⟩

/-- Under that condition concurrent settlements of readable balance changes lose
nothing: the balances are the ledger's in every state, and when all the handlers
have returned all the changes they were given are applied. -/
theorem no_update_lost (payable : ∀ i, Payable db (task i).balanceChangeId)
    (reached : Reaches currentWallets (deliveries db world task) history s) :
    (∀ accountId, balanceOf s.db accountId = balanceOf db accountId +
      settledSince db (·.accountId = accountId) walletEffect s.db) ∧
    ((∀ i, (s.procs i).Returned) →
      ∀ id, Applied s.db id ↔ Applied db id ∨ ∃ i, (task i).balanceChangeId = id) := by
  refine ⟨balances_kept currentWallets_healthy.2 reached, fun returned id => ?_⟩
  obtain ⟨verified, chain⟩ := deliveries_chain (fun (_ : True) => payable) reached
  have settled : ∀ i, Applied s.db (task i).balanceChangeId := by
    intro i
    have holds := verified.holds i
    rw [returned i] at holds
    exact holds currentWallets_healthy trivial
  constructor
  · intro marked
    rcases ((chain_applied chain).2.2 id).mp marked with before | during
    · exact .inl before
    · obtain ⟨e, _, same⟩ := List.mem_map.mp during
      exact .inr ⟨e.1, same⟩
  · rintro (before | ⟨i, rfl⟩)
    · exact before.grows (chain.rel (R := growth) settling_grows)
    · exact settled i

instance : Discipline.Decides currentWallets where
  faults _ := inferInstanceAs (Decidable False)
  serial := inferInstanceAs (Decidable False)
  admits calls op db := inferInstanceAs (Decidable (walletCurrent calls op db))

theorem no_update_lost_serially : ∃ history s,
    Reaches currentWallets (deliveries twoDeposits .empty both) history s ∧
      Applied s.db 1 ∧ Applied s.db 2 ∧ balanceOf s.db 1 = balanceOf twoDeposits 1 +
        settledSince twoDeposits (·.accountId = 1) walletEffect s.db := by
  obtain ⟨history, s, reached, returned⟩ := State.exists_of_play
    currentWallets (deliveries twoDeposits .empty both)
    (schedule [0, 0, 0, 0, 0, 0, 0, 1, 1, 1, 1, 1, 1, 1])
    (fun s => ∀ i, (s.procs i).Returned) (by decide +kernel)
  have payable : ∀ i, Payable twoDeposits (both i).balanceChangeId := by
    intro i
    match i with
    | 0 => exact ⟨_, _, rfl, rfl⟩
    | 1 => exact ⟨_, _, rfl, rfl⟩
  obtain ⟨balances, applied⟩ := no_update_lost payable reached
  exact ⟨history, s, reached, (applied returned 1).mpr (.inr ⟨0, rfl⟩),
    (applied returned 2).mpr (.inr ⟨1, rfl⟩), balances 1⟩

end LLMPool.Billing
