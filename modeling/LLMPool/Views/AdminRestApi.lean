import LLMPool.Billing.Settle

/-! The admin endpoints that record balance changes and that create and switch
subscriptions, with the database functions they call. -/
namespace LLMPool.Billing
open Transactions

def getAccountById (id : Int) : Query (Option Account) := Query.auto (.getAccountById id)

def findAccountWallet (accountId : Int) : Query (Option Wallet) :=
  Query.auto (.findAccountWallet accountId)

def getSubscriptionPlanById (id : Int) : Query (Option SubscriptionPlan) :=
  Query.auto (.getSubscriptionPlanById id)

def createSubscription (accountId planId : Int) : Query Subscription :=
  Query.auto (.insertSubscription accountId planId)

def updateSubscriptionStatus (subscriptionId : Int) (status : SubscriptionStatus) :
    Query Subscription := do
  Query.fetchOne (← Query.auto (.updateSubscriptionStatus subscriptionId status))

def cancelSubscription (subscriptionId : Int) : Query Subscription := do
  Query.fetchOne (← Query.auto (.updateSubscriptionStatus subscriptionId .deactive))

namespace AdminRestApi

/-- An error's message is kept as its pieces, with the values it displays. -/
inductive Response (α : Type) where
  | success (status : StatusCode) (body : α)
  | error (status : StatusCode) (error : String) (message : List Value)

def databaseError (message : String) : Response α :=
  .error .internalServerError "database_error" [.string message]

/-- The body of a deposit, a withdrawal or a credit. -/
structure CreateBalanceChangeRequest where
  accountId : Int
  uniqueRequestId : String
  amount : BigDecimal

/-- Verify the account exists. -/
def withAccount (accountId : Int) (next : Action (Response α)) : Action (Response α) := do
  match ← (getAccountById accountId).run with
  | .ok (some _) => next
  | .ok none =>
      return .error .notFound "not_found"
        [.string "Account with id ", .integer accountId, .string " not found"]
  | .error _ => return databaseError "Failed to query account"

/-- Create the balance change record, and enqueue the task to apply it. -/
def recordBalanceChange (payload : CreateBalanceChangeRequest) (content : BalanceChangeContent)
    (unserialized unrecorded unqueued : String) : Action (Response BalanceChange) := do
  match NewBalanceChange.fromContent payload.accountId payload.uniqueRequestId content with
  | .error _ => return .error .internalServerError "serialization_error" [.string unserialized]
  | .ok newChange =>
      match ← (createBalanceChange newChange).run with
      | .error _ => return databaseError unrecorded
      | .ok balanceChange =>
          match ← Prog.remote (E := engine) (.pushBalanceChange ⟨balanceChange.id⟩) with
          | .error _ => return .error .internalServerError "queue_error" [.string unqueued]
          | .ok _ => return .success .created balanceChange

def withPositiveAmount (amount : BigDecimal) (next : Action (Response α)) : Action (Response α) :=
  if amount ≤ 0 then
    return .error .badRequest "validation_error" [.string "Amount must be positive"]
  else next

def createDeposit (payload : CreateBalanceChangeRequest) : Action (Response BalanceChange) :=
  withPositiveAmount payload.amount (withAccount payload.accountId
    (recordBalanceChange payload (.deposit payload.amount)
      "Failed to serialize deposit content" "Failed to create deposit record"
      "Deposit record created but failed to enqueue processing task"))

/-- A withdrawal also needs the balance at the time of the request. -/
def createWithdraw (payload : CreateBalanceChangeRequest) : Action (Response BalanceChange) :=
  withPositiveAmount payload.amount (withAccount payload.accountId (do
    match ← (findAccountWallet payload.accountId).run with
    | .ok (some wallet) =>
        if wallet.balance < payload.amount then
          return .error .badRequest "insufficient_wallets"
            [.string "Insufficient balance. Available: ", .decimal wallet.balance,
              .string ", requested: ", .decimal payload.amount]
        else
          recordBalanceChange payload (.withdraw payload.amount)
            "Failed to serialize withdrawal content" "Failed to create withdrawal record"
            "Withdrawal record created but failed to enqueue processing task"
    | .ok none =>
        return .error .badRequest "insufficient_wallets"
          [.string "Insufficient balance. Available: 0, requested: ", .decimal payload.amount]
    | .error _ => return databaseError "Failed to query account wallet"))

def createCredit (payload : CreateBalanceChangeRequest) : Action (Response BalanceChange) :=
  withPositiveAmount payload.amount (withAccount payload.accountId
    (recordBalanceChange payload (.addCredit payload.amount)
      "Failed to serialize credit content" "Failed to create credit record"
      "Credit record created but failed to enqueue processing task"))

structure CreateSubscriptionRequest where
  accountId : Int
  planId : Int

def createSubscription (payload : CreateSubscriptionRequest) : Action (Response Subscription) :=
  withAccount payload.accountId (do
    match ← (getSubscriptionPlanById payload.planId).run with
    | .ok (some _) =>
        match ← (Billing.createSubscription payload.accountId payload.planId).run with
        | .ok subscription => return .success .created subscription
        | .error _ => return databaseError "Failed to create subscription"
    | .ok none =>
        return .error .notFound "not_found"
          [.string "Subscription plan with id ", .integer payload.planId, .string " not found"]
    | .error _ => return databaseError "Failed to query subscription plan")

/-- The statuses in `VALID_SUBSCRIPTION_STATUSES`. -/
def validSubscriptionStatus : String → Option SubscriptionStatus
  | "active" => some .active
  | "deactive" => some .deactive
  | _ => none

def subscriptionNotFound (subscriptionId : Int) : Response α :=
  .error .notFound "not_found"
    [.string "Subscription with id ", .integer subscriptionId, .string " not found"]

def updateSubscription (subscriptionId : Int) (status : String) : Action (Response Subscription) :=
  match validSubscriptionStatus status with
  | none =>
      return .error .badRequest "validation_error"
        [.string "Invalid status '", .string status, .string "'. Must be one of: ",
          .string "active, deactive"]
  | some status => do
      match ← (updateSubscriptionStatus subscriptionId status).run with
      | .ok subscription => return .success .ok subscription
      | .error .rowNotFound => return subscriptionNotFound subscriptionId
      | .error (.database _) => return databaseError "Failed to update subscription"

def cancelSubscription (subscriptionId : Int) : Action (Response Subscription) := do
  match ← (Billing.cancelSubscription subscriptionId).run with
  | .ok subscription => return .success .ok subscription
  | .error .rowNotFound => return subscriptionNotFound subscriptionId
  | .error (.database _) => return databaseError "Failed to cancel subscription"

end AdminRestApi
end LLMPool.Billing
