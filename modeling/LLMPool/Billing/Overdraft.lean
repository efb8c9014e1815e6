import LLMPool.Billing.Reconciliation
import Mathlib.Algebra.Order.BigOperators.Group.List
import Mathlib.Tactic.Linarith

/-! Deposits, credits and withdrawals beside settlements: a withdrawal is checked
against the committed balance, which the recorded withdrawals have yet to lower. -/
namespace LLMPool.Billing
open Relational Transactions

/-- The most that settling a balance change takes out of its account's wallet. -/
def debit (content : BalanceChangeContent) : BigDecimal := max 0 (-walletEffect 0 content)

/-- What the recorded but unsettled balance changes of an account may take. -/
def pendingDebits (db : Db) (accountId : Int) : BigDecimal :=
  db.balanceChanges.sum (fun c =>
    if c.accountId = accountId ∧ c.isApplied = false then effect (fun _ => debit) c else 0)

/-- The account's balance covers whatever is still to be settled. -/
def Solvent (db : Db) (accountId : Int) : Prop := pendingDebits db accountId ≤ balanceOf db accountId

instance (db : Db) (accountId : Int) : Decidable (Solvent db accountId) :=
  inferInstanceAs (Decidable (_ ≤ _))

theorem debit_nonneg (content : BalanceChangeContent) : 0 ≤ debit content := le_max_left _ _

theorem effect_debit_nonneg (c : BalanceChange) : 0 ≤ effect (fun _ => debit) c := by
  unfold effect
  split
  · exact debit_nonneg _
  · exact le_refl 0

/-- A subscription that pays takes less than the wallet would. -/
theorem walletEffect_debit (id : Int) (content : BalanceChangeContent) :
    -debit content ≤ walletEffect id content := by
  have bound : -walletEffect 0 content ≤ debit content := le_max_right _ _
  have positive := debit_nonneg content
  cases content with
  | spendToken spend =>
      simp only [walletEffect, if_true] at bound ⊢
      split <;> linarith
  | deposit amount | addCredit amount | withdraw amount =>
      simp only [walletEffect] at bound ⊢
      linarith

theorem pendingDebits_nonneg (db : Db) (accountId : Int) : 0 ≤ pendingDebits db accountId := by
  apply List.sum_nonneg
  intro amount member
  obtain ⟨c, _, rfl⟩ := List.mem_map.mp member
  split
  · exact effect_debit_nonneg c
  · exact le_refl 0

theorem Solvent.nonneg (solvent : Solvent db accountId) : 0 ≤ balanceOf db accountId :=
  (pendingDebits_nonneg db accountId).trans solvent

section Settling
variable {D : Discipline engine} {S : Settlement} {db db' : Db} {accountId id : Int}

/-- A settlement takes its balance change off what is pending. -/
theorem pendingDebits_writes (ready : S.Ready D db) :
    pendingDebits (engine.applyAll S.writes db) accountId = pendingDebits db accountId -
      if S.change.accountId = accountId then debit S.content else 0 := by
  have content : effect (fun _ => debit) S.change = debit S.content := by
    simp only [effect, ready.parsed]
  rw [pendingDebits, writes_balanceChanges, Table.sum_modify _ ready.found]
  simp only [applied, ready.unapplied, Bool.true_eq_false, and_false, if_false, and_true, content]
  rw [zero_sub, ← sub_eq_add_neg]
  rfl

/-- A settlement that writes what it has read leaves its account solvent. -/
theorem Settles.solvent (current : D.serial ∨ WalletCurrent D) (settles : Settles D id db db')
    (solvent : Solvent db accountId) : Solvent db' accountId := by
  obtain ⟨S, _, ready, final, rfl⟩ := settles
  have wallet : S.stored = true → S.created = false →
      db.wallets.find S.wallet.id = some S.wallet := by
    rcases current with serial | current
    · exact (S.serial serial ready final).current
    · exact ready.current current
  rw [Solvent, pendingDebits_writes ready, balanceOf_writes ready final wallet]
  have taken := walletEffect_debit S.subscriptionId S.content
  rw [Solvent] at solvent
  split <;> linarith

end Settling

/-- The requests that move money into and out of wallets, and their settlement. -/
inductive WalletRequest where
  | createDeposit (payload : AdminRestApi.CreateBalanceChangeRequest)
  | createCredit (payload : AdminRestApi.CreateBalanceChangeRequest)
  | createWithdraw (payload : AdminRestApi.CreateBalanceChangeRequest)
  | settle (task : BalanceChangeTask)

def WalletRequest.program : WalletRequest → Action Unit
  | createDeposit payload => do let _ ← AdminRestApi.createDeposit payload
  | createCredit payload => do let _ ← AdminRestApi.createCredit payload
  | createWithdraw payload => do let _ ← AdminRestApi.createWithdraw payload
  | settle task => settleBalanceChange task

/-- A positive amount in or out. -/
def Transfers : BalanceChangeContent → Prop
  | .deposit amount | .addCredit amount | .withdraw amount => 0 < amount
  | .spendToken _ => False

/-- What the endpoints commit, where the run admits it. -/
inductive Posts (D : Discipline engine) (db : Db) : Db → Prop
  | posted (calls : List (Call engine)) (new : NewBalanceChange) (c : BalanceChange)
      (content : BalanceChangeContent) (free : db.balanceChanges.free c)
      (unapplied : c.isApplied = false) (owner : c.accountId = new.accountId)
      (stored : c.content = new.content) (serialized : new.content = content.toValue)
      (transfers : Transfers content) (admitted : D.admits calls (.auto (.insertBalanceChange new)) db) :
      Posts D db (apply (.insertBalanceChange c) db)

def WalletRequest.guarantee (D : Discipline engine) : WalletRequest → Db → Db → Prop
  | settle task => Settles D task.balanceChangeId
  | _ => Posts D

section Endpoints
variable {D : Discipline engine} {R : Rely engine} {calls : List (Call engine)} {db : Db}

theorem wp_recordBalanceChange (payload : AdminRestApi.CreateBalanceChangeRequest)
    (content : BalanceChangeContent) (transfers : Transfers content)
    (unserialized unrecorded unqueued : String) :
    (AdminRestApi.recordBalanceChange payload content unserialized unrecorded unqueued).wp D R
      (Posts D) (fun _ _ _ => True) calls db := by
  simp only [AdminRestApi.recordBalanceChange, NewBalanceChange.fromContent, pure, Except.pure,
    createBalanceChange]
  refine wp_bind.mpr (wp_queryAuto ?_ (fun _ _ _ => trivial))
  intro db' env c _ admitted drawn executed
  refine ⟨fun _ => ?_, ?_⟩
  · have row := executed
    simp only [exec] at row
    split at row <;> cases row
    exact .posted _ _ _ content (exec_insert drawn executed) rfl rfl rfl rfl transfers admitted
  · refine wp_bind.mpr (wp_remote ?_ ?_)
    · exact fun _ _ _ _ _ => trivial
    · exact fun _ _ _ => trivial

theorem wp_withPositiveAmount {amount : BigDecimal} {next : Action (AdminRestApi.Response α)}
    {G : Db → Db → Prop} {Q : AdminRestApi.Response α → List (Call engine) → Db → Prop}
    (goes : 0 < amount → next.wp D R G Q calls db) (stops : ∀ response, Q response calls db) :
    (AdminRestApi.withPositiveAmount amount next).wp D R G Q calls db := by
  rw [AdminRestApi.withPositiveAmount]
  split
  · exact stops _
  · rename_i positive
    exact goes (not_le.mp positive)

theorem wp_createDeposit (payload : AdminRestApi.CreateBalanceChangeRequest) :
    (AdminRestApi.createDeposit payload).wp D R (Posts D) (fun _ _ _ => True) calls db :=
  wp_withPositiveAmount (fun positive => wp_withAccount
    (fun _ _ => wp_recordBalanceChange payload (.deposit payload.amount) positive _ _ _)
    (fun _ _ _ => trivial)) (fun _ => trivial)

theorem wp_createCredit (payload : AdminRestApi.CreateBalanceChangeRequest) :
    (AdminRestApi.createCredit payload).wp D R (Posts D) (fun _ _ _ => True) calls db :=
  wp_withPositiveAmount (fun positive => wp_withAccount
    (fun _ _ => wp_recordBalanceChange payload (.addCredit payload.amount) positive _ _ _)
    (fun _ _ _ => trivial)) (fun _ => trivial)

theorem wp_createWithdraw (payload : AdminRestApi.CreateBalanceChangeRequest) :
    (AdminRestApi.createWithdraw payload).wp D R (Posts D) (fun _ _ _ => True) calls db := by
  refine wp_withPositiveAmount (fun positive => wp_withAccount (fun _ _ => ?_)
    (fun _ _ _ => trivial)) (fun _ => trivial)
  rw [findAccountWallet, wp_bind]
  refine wp_queryAuto ?_ (fun _ _ _ => trivial)
  intro db' _ answer _ _ _ _
  refine ⟨fun wrote => absurd rfl wrote, ?_⟩
  cases answer with
  | none => trivial
  | some wallet =>
      dsimp only
      split
      · trivial
      · exact wp_recordBalanceChange payload (.withdraw payload.amount) positive _ _ _

theorem WalletRequest.wp_program (request : WalletRequest) :
    request.program.wp D growth (request.guarantee D) (fun _ _ _ => True) [] db := by
  cases request with
  | settle task =>
      exact wp_mono (fun _ _ same => same) (fun _ _ _ _ => trivial)
        (wp_settleBalanceChange (fun never : False => never.elim))
  | createDeposit payload => exact wp_bind.mpr (wp_createDeposit payload)
  | createCredit payload => exact wp_bind.mpr (wp_createCredit payload)
  | createWithdraw payload => exact wp_bind.mpr (wp_createWithdraw payload)

end Endpoints

/-- A withdrawal is recorded while the balance covers it and all that is pending. -/
def funded (_ : List (Call engine)) (op : Op engine) (db : Db) : Prop :=
  match op with
  | .auto (.insertBalanceChange new) =>
      match BalanceChangeContent.fromValue new.content with
      | .ok (.withdraw amount) =>
          pendingDebits db new.accountId + amount ≤ balanceOf db new.accountId
      | _ => True
  | _ => True

instance (calls : List (Call engine)) (op : Op engine) (db : Db) : Decidable (funded calls op db) := by
  rcases op with _ | s | _ | s | c
  case auto =>
    rcases s
    case insertBalanceChange new =>
      dsimp only [funded]
      generalize BalanceChangeContent.fromValue new.content = content
      rcases content with e | (_ | _ | _ | _) <;> dsimp only <;> infer_instance
    all_goals exact instDecidableTrue
  all_goals exact instDecidableTrue

section Runs
variable {ι : Type} {D : Discipline engine} {db db' : Db} {world : World}
  {request : ι → WalletRequest} {accountId : Int}

theorem Posts.grows (posts : Posts D db db') : Grows db db' := by
  cases posts
  exact grows_apply _ db

theorem WalletRequest.grows {request : WalletRequest} (step : request.guarantee D db db') :
    Grows db db' := by
  cases request with
  | settle task => exact Settles.grows step
  | createDeposit | createCredit | createWithdraw => exact Posts.grows step

theorem Posts.solvent (covered : ∀ calls op db, D.admits calls op db → funded calls op db)
    (posts : Posts D db db') (solvent : Solvent db accountId) : Solvent db' accountId := by
  cases posts with
  | posted calls new c content free unapplied owner stored serialized transfers admitted =>
      have parsed : BalanceChangeContent.fromValue new.content = .ok content :=
        serialized ▸ BalanceChangeContent.fromValue_toValue content
      have taken : effect (fun _ => debit) c = debit content := by
        simp only [effect, stored, parsed]
      have pending : pendingDebits (apply (.insertBalanceChange c) db) accountId =
          pendingDebits db accountId + if c.accountId = accountId then debit content else 0 := by
        rw [pendingDebits, apply, Table.sum_insert _ free]
        simp only [unapplied, and_true, taken]
        rfl
      have balance : balanceOf (apply (.insertBalanceChange c) db) accountId = balanceOf db accountId :=
        rfl
      have fits := covered _ _ _ admitted
      rw [Solvent] at solvent
      rw [Solvent, pending, balance]
      split
      · rename_i mine
        rw [funded, parsed] at fits
        cases content with
        | spendToken spend => exact transfers.elim
        | deposit amount | addCredit amount =>
            have positive : 0 < amount := transfers
            rw [debit, walletEffect, max_eq_left (neg_nonpos.mpr positive.le), add_zero]
            exact solvent
        | withdraw amount =>
            have all : debit (.withdraw amount) = amount := by
              have positive : 0 < amount := transfers
              rw [debit, walletEffect, neg_neg, max_eq_right positive.le]
            rw [all, ← mine, owner]
            exact fits
      · rw [add_zero]
        exact solvent

def walletRequests (db : Db) (world : World) (request : ι → WalletRequest) : State engine ι :=
  .starting db world (fun i => (request i).program)

variable [DecidableEq ι] {s : State engine ι}

theorem walletRequests_chain (reached : Reaches D (walletRequests db world request) history s) :
    Verified D growth (fun i => (request i).guarantee D) (fun _ _ _ => True) s ∧
      Chain (fun i => (request i).guarantee D) db history s.db :=
  reached.chain (.starting (fun i => (request i).wp_program))
    (fun i _ _ (step : (request i).guarantee D _ _) => WalletRequest.grows step)
    (fun _ _ _ _ _ _ => trivial)

/-- If each settlement writes what it has read and each withdrawal is recorded while
the balance covers it together with what is pending, no wallet that starts with its
pending changes covered is overdrawn in any state of a run. -/
theorem never_overdrawn (current : D.serial ∨ WalletCurrent D)
    (covered : ∀ calls op db, D.admits calls op db → funded calls op db)
    (solvent : Solvent db accountId)
    (reached : Reaches D (walletRequests db world request) history s) :
    0 ≤ balanceOf s.db accountId := by
  obtain ⟨_, chain⟩ := walletRequests_chain reached
  suffices kept : Solvent s.db accountId from kept.nonneg
  refine chain.invariant (I := fun _ now => Solvent now accountId) ?_ ?_
  · exact solvent
  · intro history i writes mid _ solvent step
    cases asked : request i with
    | settle task =>
        rw [asked] at step
        exact Settles.solvent current step solvent
    | createDeposit | createCredit | createWithdraw =>
        rw [asked] at step
        exact Posts.solvent covered step solvent

end Runs

/-- One transaction at a time, and no call fails. -/
def oneAtATime : Discipline engine := ⟨fun _ => False, True, fun _ _ _ => True⟩

instance : Discipline.Decides oneAtATime where
  faults _ := inferInstanceAs (Decidable False)
  serial := inferInstanceAs (Decidable True)
  admits _ _ _ := inferInstanceAs (Decidable True)

/-- An account with a wallet of 100. -/
def oneHundred : Db := { Db.empty with
  accounts := Table.empty.insert ⟨1, "account-1", true⟩
  wallets := Table.empty.insert ⟨1, 1, 100⟩ }

def withdrawal (uniqueRequestId : String) : AdminRestApi.CreateBalanceChangeRequest :=
  ⟨1, uniqueRequestId, 60⟩

/-- Two withdrawals of 60, and the settlements of the changes that they record. -/
def twoWithdrawals (first second : Int) : Fin 4 → WalletRequest
  | 0 => .createWithdraw (withdrawal "withdraw-1")
  | 1 => .createWithdraw (withdrawal "withdraw-2")
  | 2 => .settle ⟨first⟩
  | 3 => .settle ⟨second⟩

/-- Both withdrawals are checked against the balance of 100 before either is settled. -/
theorem withdrawals_overdraw : Solvent oneHundred 1 ∧ ∃ history s,
    Reaches oneAtATime (walletRequests oneHundred .empty (twoWithdrawals 3 7)) history s ∧
    (∀ i, (s.procs i).Returned) ∧ balanceOf s.db 1 = -20 :=
  ⟨by decide +kernel, State.exists_of_play _ _
    (schedule [0, 0, 0, 0, 1, 1, 1, 1, 2, 2, 2, 2, 2, 2, 2, 3, 3, 3, 3, 3, 3, 3]) _
    (by decide +kernel)⟩

/-- One transaction at a time, with each withdrawal covered; any call may fail. -/
def fundedWithdrawals : Discipline engine := ⟨fun _ => True, True, funded⟩

instance : Discipline.Decides fundedWithdrawals where
  faults _ := inferInstanceAs (Decidable True)
  serial := inferInstanceAs (Decidable True)
  admits calls op db := inferInstanceAs (Decidable (funded calls op db))

/-- The second withdrawal comes after the first is settled, and is refused. -/
theorem never_overdrawn_settled_first : ∃ history s,
    Reaches fundedWithdrawals (walletRequests oneHundred .empty (twoWithdrawals 3 7)) history s ∧
    Applied s.db 3 ∧ 0 ≤ balanceOf s.db 1 := by
  obtain ⟨history, s, reached, applied⟩ := State.exists_of_play fundedWithdrawals
    (walletRequests oneHundred .empty (twoWithdrawals 3 7))
    (schedule [0, 0, 0, 0, 2, 2, 2, 2, 2, 2, 2, 1, 1]) (fun s => Applied s.db 3)
    (by decide +kernel)
  exact ⟨history, s, reached, applied, never_overdrawn (.inl trivial)
    (fun _ _ _ admitted => admitted) (by decide +kernel) reached⟩

end LLMPool.Billing
