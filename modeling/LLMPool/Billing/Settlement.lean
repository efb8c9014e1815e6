import LLMPool.Growth
import LLMPool.Billing.Settle

/-! What one settlement transaction does, whatever runs beside it: the summary of
its calls, and the facts that its row locks keep true until it commits. -/
namespace LLMPool.Billing
open Relational Transactions

/-- What a settled balance change does to its account's wallet: a spend that a
subscription pays for does nothing. -/
def walletEffect (subscriptionId : Int) : BalanceChangeContent → BigDecimal
  | .spendToken spend => if subscriptionId = 0 then -spend.spendAmount else 0
  | .deposit amount | .addCredit amount => amount
  | .withdraw amount => -amount

/-- What a settled balance change does to the subscription it is recorded with. -/
def tokensEffect : BalanceChangeContent → Int
  | .spendToken spend => spend.consumedTokens
  | _ => 0

def moneyEffect : BalanceChangeContent → BigDecimal
  | .spendToken spend => spend.spendAmount
  | _ => 0

/-- A settlement: the rows it read, whether it created the wallet, the subscription
it charged, and whether it stored a new balance. -/
structure Settlement where
  change : BalanceChange
  content : BalanceChangeContent
  wallet : Wallet
  created : Bool
  charged : Option Subscription
  stored : Bool

namespace Settlement

def subscriptionId (S : Settlement) : Int :=
  match S.charged with
  | some s => s.id
  | none => 0

def newBalance (S : Settlement) : BigDecimal :=
  S.wallet.balance + walletEffect S.subscriptionId S.content

def creation (S : Settlement) : List Write := if S.created then [.insertWallet S.wallet] else []

def usage (S : Settlement) : List Write :=
  match S.charged with
  | some s => [.setSubscriptionUsage s.id (s.usedTotalTokens + tokensEffect S.content)
      (s.usedMoney + moneyEffect S.content)]
  | none => []

def payment (S : Settlement) : List Write :=
  if S.stored then [.setWalletBalance S.wallet.id S.newBalance] else []

def pending (S : Settlement) : List Write := S.creation ++ S.usage ++ S.payment

def writes (S : Settlement) : List Write :=
  S.pending ++ [.markApplied S.change.id S.subscriptionId]

def held (S : Settlement) : List Lock :=
  [Lock.balanceChange S.change.id] ++
    (if S.created then [.wallet S.wallet.id, .walletOf S.wallet.accountId] else []) ++
    (match S.charged with
      | some s => [.subscription s.id]
      | none => []) ++
    (if S.stored then [.wallet S.wallet.id] else [])

def session (S : Settlement) : Session engine := ⟨true, false, S.pending, S.held⟩

end Settlement

/-- The wallet that a settlement's calls found or created. -/
def walletRead : List (Call engine) → Option Wallet
  | [] => none
  | ⟨.sql (.findAccountWallet _), .ok (some w)⟩ :: _ => some w
  | ⟨.sql (.insertWallet _ _), .ok w⟩ :: _ => some w
  | _ :: older => walletRead older

/-- The subscription that a settlement's calls selected. -/
def subscriptionRead : List (Call engine) → Option Subscription
  | [] => none
  | ⟨.sql (.getCurrentSubscription _ _), .ok (some s)⟩ :: _ => some s
  | _ :: older => subscriptionRead older

/-- Each `UPDATE wallets` runs while the row is still the one that was read, and
each `INSERT INTO wallets` while the account has no committed wallet. -/
def walletCurrent (calls : List (Call engine)) (op : Op engine) (db : Db) : Prop :=
  match op with
  | .sql (.updateWalletBalance id _) => ∀ w, walletRead calls = some w →
      ((session calls).view db).wallets.find id = some w
  | .sql (.insertWallet accountId _) => db.wallets.lookup accountId = none
  | _ => True

instance (calls : List (Call engine)) (op : Op engine) (db : Db) :
    Decidable (walletCurrent calls op db) := by
  rcases op with _ | s | _ | s | c
  case sql =>
    rcases s
    case updateWalletBalance id balance =>
      exact inferInstanceAs (Decidable (∀ w ∈ walletRead calls, _))
    case insertWallet accountId balance =>
      exact inferInstanceAs (Decidable (db.wallets.lookup accountId = none))
    all_goals exact instDecidableTrue
  all_goals exact instDecidableTrue

/-- Each `UPDATE subscriptions` of the usage runs while the row's used tokens are
still those that were read. -/
def usageCurrent (calls : List (Call engine)) (op : Op engine) (db : Db) : Prop :=
  match op with
  | .sql (.updateSubscriptionUsage id _ _) => ∀ s, subscriptionRead calls = some s →
      ∃ s' ∈ db.subscriptions.find id, s'.usedTotalTokens = s.usedTotalTokens
  | _ => True

instance (calls : List (Call engine)) (op : Op engine) (db : Db) :
    Decidable (usageCurrent calls op db) := by
  rcases op with _ | s | _ | s | c
  case sql =>
    rcases s
    case updateSubscriptionUsage id usedTotalTokens usedMoney =>
      exact inferInstanceAs (Decidable (∀ s ∈ subscriptionRead calls, _))
    all_goals exact instDecidableTrue
  all_goals exact instDecidableTrue

def WalletCurrent (D : Discipline engine) : Prop :=
  ∀ calls op db, D.admits calls op db → walletCurrent calls op db

def UsageCurrent (D : Discipline engine) : Prop :=
  ∀ calls op db, D.admits calls op db → usageCurrent calls op db

/-- No call fails, and no wallet is written from a value that has gone stale. -/
def Healthy (D : Discipline engine) : Prop := (∀ op, ¬D.faults op) ∧ WalletCurrent D

namespace Settlement

/-- The subscription row that is charged: the one selected, with room for the
tokens, in whatever state it now is. -/
structure Charges (D : Discipline engine) (change : BalanceChange) (content : BalanceChangeContent)
    (s : Subscription) (db : Db) : Prop where
  spends : ∃ spend, content = .spendToken spend
  owner : s.accountId = change.accountId
  quota : s.usedTotalTokens + tokensEffect content ≤ s.totalTokenLimit
  row : ∃ s', db.subscriptions.find s.id = some s' ∧ SameSubscription s s' ∧
    (UsageCurrent D → s'.usedTotalTokens = s.usedTotalTokens)

/-- What holds of the committed rows from the call that observes it to the commit. -/
structure Ready (D : Discipline engine) (S : Settlement) (db : Db) : Prop where
  found : db.balanceChanges.find S.change.id = some S.change
  unapplied : S.change.isApplied = false
  parsed : BalanceChangeContent.fromValue S.change.content = .ok S.content
  owner : S.wallet.accountId = S.change.accountId
  fresh : S.created = true → db.wallets.free S.wallet ∧ S.wallet.balance = 0
  charges : ∀ s ∈ S.charged, Charges D S.change S.content s db
  current : WalletCurrent D → S.stored = true → S.created = false →
    db.wallets.find S.wallet.id = some S.wallet

variable {D : Discipline engine} {S : Settlement} {db db' : Db}

/-- Other processes leave what a settlement has locked as it is. -/
theorem Ready.stable (ready : S.Ready D db) (between : Interferes D growth t db db')
    (held : ∀ l ∈ S.held, l ∈ t.held) : S.Ready D db' where
  found := by
    have locked := between.same (Lock.balanceChange S.change.id) (held _ (by simp [Settlement.held]))
    exact locked.symm.trans ready.found
  unapplied := ready.unapplied
  parsed := ready.parsed
  owner := ready.owner
  fresh created := by
    obtain ⟨free, zero⟩ := ready.fresh created
    have row := between.same (Lock.wallet S.wallet.id) (held _ (by simp [Settlement.held, created]))
    have entry := between.same (Lock.walletOf S.wallet.accountId)
      (held _ (by simp [Settlement.held, created]))
    refine ⟨⟨row.symm.trans free.1, ?_⟩, zero⟩
    have absent : (db.wallets.lookup S.wallet.accountId).isSome = false := by
      rw [show db.wallets.lookup S.wallet.accountId = none from free.2]
      rfl
    exact Option.isSome_eq_false_iff.mp (entry.symm.trans absent) |> Option.isNone_iff_eq_none.mp
  charges s charged := by
    have charge := ready.charges s charged
    have row := between.same (Lock.subscription s.id)
      (held _ (by simp [Settlement.held, Option.mem_def.mp charged]))
    obtain ⟨s', found, rest⟩ := charge.row
    exact { charge with row := ⟨s', row.symm.trans found, rest⟩ }
  current healthy stored created := by
    have row := between.same (Lock.wallet S.wallet.id) (held _ (by simp [Settlement.held, stored]))
    exact row.symm.trans (ready.current healthy stored created)

end Settlement

end LLMPool.Billing
