import LLMPool.Query

/-! The database functions of the billing path and the handler that settles a
balance change, statement by statement. -/
namespace LLMPool.Billing
open Transactions

def findBalanceChangeByIdWithTx (id : Int) : Query (Option BalanceChange) :=
  Query.sql (.findBalanceChangeForUpdate id)

def createBalanceChangeWithTx (newChange : NewBalanceChange) : Query BalanceChange :=
  Query.sql (.insertBalanceChange newChange)

def createBalanceChange (newChange : NewBalanceChange) : Query BalanceChange :=
  Query.auto (.insertBalanceChange newChange)

def createSessionEventWithTx (newEvent : NewSessionEvent) : Query SessionEvent :=
  Query.sql (.upsertSessionEvent newEvent)

def getModelWithTx (modelId : Int) : Query LLMModel := do
  Query.fetchOne (← Query.sql (.getModel modelId))

def markBalanceChangeAppliedWithTx (id subscriptionId : Int) : Query Unit :=
  Query.sql (.markBalanceChangeApplied id subscriptionId)

def getCurrentSubscriptionWithTx (accountId consumedTokens : Int) : Query (Option Subscription) :=
  Query.sql (.getCurrentSubscription accountId consumedTokens)

def incrementSubscriptionUsageWithTx (subscription : Subscription) (totalTokens : Int)
    (totalSpendAmount : BigDecimal) : Query Unit :=
  let newUsedTotalTokens := subscription.usedTotalTokens + totalTokens
  let newUsedMoney := subscription.usedMoney + totalSpendAmount
  Query.sql (.updateSubscriptionUsage subscription.id newUsedTotalTokens newUsedMoney)

/-- `apply_balance_change_with_tx`: find or create the account wallet. -/
def accountWalletWithTx (accountId : Int) : Query Wallet := do
  match ← Query.sql (.findAccountWallet accountId) with
  | some wallet => return wallet
  | none => Query.sql (.insertWallet accountId 0)

/-- `apply_balance_change_with_tx`: charge the content, and compute the new wallet
balance and the subscription to record. -/
def chargeWithTx (accountWallet : Wallet) (accountId : Int) (content : BalanceChangeContent) :
    Query (BigDecimal × Int) := do
  match content with
  | .spendToken spend =>
      let totalTokens := spend.inputTokens + spend.outputTokens
      let spendAmount := spend.inputSpendAmount + spend.outputSpendAmount
      match ← getCurrentSubscriptionWithTx accountId totalTokens with
      | some subscription =>
          incrementSubscriptionUsageWithTx subscription totalTokens spendAmount
          return (accountWallet.balance, subscription.id)
      | none => return (accountWallet.balance - spendAmount, 0)
  | .deposit amount | .addCredit amount => return (accountWallet.balance + amount, 0)
  | .withdraw amount => return (accountWallet.balance - amount, 0)

/-- `apply_balance_change_with_tx`: the `UPDATE` is skipped for an equal balance. -/
def storeBalanceWithTx (accountWallet : Wallet) (newBalance : BigDecimal) : Query Wallet := do
  if newBalance ≠ accountWallet.balance then
    Query.fetchOne (← Query.sql (.updateWalletBalance accountWallet.id newBalance))
  else return accountWallet

def applyBalanceChangeWithTx (balanceChange : BalanceChange) (content : BalanceChangeContent) :
    Query Wallet := do
  let accountWallet ← accountWalletWithTx balanceChange.accountId
  let (newBalance, subscriptionId) ← chargeWithTx accountWallet balanceChange.accountId content
  let returnWallet ← storeBalanceWithTx accountWallet newBalance
  markBalanceChangeAppliedWithTx balanceChange.id subscriptionId
  return returnWallet

/-- Every failure is only logged: the handler returns, and its transaction is dropped. -/
def settleBalanceChange (entry : BalanceChangeTask) : Action Unit := do
  match ← Prog.begin with
  | .error _ => return ()
  | .ok _ =>
      match ← (findBalanceChangeByIdWithTx entry.balanceChangeId).run with
      | .error _ => return ()
      | .ok none => return ()
      | .ok (some balanceChange) =>
          if balanceChange.isApplied then return ()
          else match BalanceChangeContent.fromValue balanceChange.content with
          | .error _ => return ()
          | .ok content =>
              match ← (applyBalanceChangeWithTx balanceChange content).run with
              | .error _ => return ()
              | .ok updatedWallet =>
                  match ← Prog.commit with
                  | .error _ => return ()
                  | .ok _ =>
                      let _ ← Prog.remote (E := engine)
                        (.setWalletInfo updatedWallet.accountId updatedWallet)
                      return ()

end LLMPool.Billing
